import RetrievingAI.Lib.Fallible
import Mathlib.Algebra.Order.Ring.Rat

/-! What the game uses of the engine: numbers, vectors, mesh components, text blocks and widgets. -/
namespace RetrievingAI
open Fallible

abbrev FName := String

/-- The arithmetic the code performs on `float`, left open between floating point and exact numbers. -/
class EngineFloat (F : Type) extends Add F, Mul F, Neg F, Div F, NatCast F where
  lessOrEqual : F → F → Bool

instance : EngineFloat ℚ where
  lessOrEqual a b := decide (a ≤ b)

structure FVector (F : Type) where
  x : F
  y : F
  z : F

namespace FVector

variable {F : Type} [EngineFloat F]

def zeroVector : FVector F := ⟨((0 : ℕ) : F),((0 : ℕ) : F),((0 : ℕ) : F)⟩

instance : Add (FVector F) := ⟨fun a b => ⟨a.x+b.x,a.y+b.y,a.z+b.z⟩⟩

def scale (v : FVector F) (s : F) : FVector F := ⟨v.x*s,v.y*s,v.z*s⟩

def divide (v : FVector F) (s : F) : FVector F := ⟨v.x/s,v.y/s,v.z/s⟩

end FVector

inductive NullPointer
  | actor
  | interactionWidget
  | playerHUD
  | droppedBall
  | ballThrower
  | aiRetriever
  | aiCharacterControler
  | blackboard
  | ballToRetrieve
  deriving DecidableEq,Repr

abbrev Exec (α : Type) := Except NullPointer α

inductive HandSocket
  | player
  | retriever (ref : Nat)
  deriving DecidableEq,Repr

structure UStaticMeshComponent (F : Type) where
  bSimulatePhysics : Bool
  attachParent : Option HandSocket
  physicsLinearVelocity : FVector F

namespace UStaticMeshComponent

variable {F : Type}

-- A body that starts simulating is detached from its parent by the engine.
def setSimulatePhysics (mesh : UStaticMeshComponent F) (bSimulate : Bool) : UStaticMeshComponent F :=
  if bSimulate then {mesh with bSimulatePhysics := true,attachParent := none}
  else {mesh with bSimulatePhysics := false}

def attachToComponent (mesh : UStaticMeshComponent F) (parent : HandSocket) : UStaticMeshComponent F :=
  {mesh with attachParent := some parent}

def setPhysicsLinearVelocity (mesh : UStaticMeshComponent F) (velocity : FVector F) :
    UStaticMeshComponent F :=
  {mesh with physicsLinearVelocity := velocity}

end UStaticMeshComponent

inductive ESlateVisibility
  | visible
  | hidden
  deriving DecidableEq,Repr

inductive FColor
  | white
  | green
  | red
  deriving DecidableEq,Repr

structure UTextBlock where
  text : String
  colorAndOpacity : FColor
  visibility : ESlateVisibility
  deriving DecidableEq,Repr

structure UInteractionWidget where
  interactionText : Option UTextBlock
  deriving DecidableEq,Repr

namespace UInteractionWidget

def setHintVisibility (widget : UInteractionWidget) (bIsVisible : Bool) : UInteractionWidget :=
  match widget.interactionText with
  | none => widget
  | some text =>
    if !bIsVisible then {widget with interactionText := some {text with visibility := .hidden}}
    else {widget with interactionText := some {text with visibility := .visible}}

def nativeConstruct (widget : UInteractionWidget) : UInteractionWidget :=
  let widget := match widget.interactionText with
    | none => widget
    | some text => {widget with interactionText := some {text with text := "E"}}
  widget.setHintVisibility false

def hintVisible (widget : UInteractionWidget) : Bool :=
  widget.interactionText.any (·.visibility == .visible)

@[simp] theorem hintVisible_setHintVisibility (widget : UInteractionWidget) (bIsVisible : Bool) :
    (widget.setHintVisibility bIsVisible).hintVisible =
      (bIsVisible && widget.interactionText.isSome) := by
  cases widget with
  | mk text => cases text <;> cases bIsVisible <;> rfl

@[simp] theorem interactionText_isSome (widget : UInteractionWidget) (bIsVisible : Bool) :
    (widget.setHintVisibility bIsVisible).interactionText.isSome = widget.interactionText.isSome := by
  cases widget with
  | mk text => cases text <;> cases bIsVisible <;> rfl

@[simp] theorem hintVisible_nativeConstruct (widget : UInteractionWidget) :
    widget.nativeConstruct.hintVisible = false := by
  simp [nativeConstruct]

end UInteractionWidget

/-- A widget component holds its user widget already cast to `UInteractionWidget`. -/
structure UWidgetComponent where
  widget : Option UInteractionWidget
  deriving DecidableEq,Repr

namespace UWidgetComponent

/-- `if(Component) Cast<UInteractionWidget>(Component->GetWidget())->SetHintVisibility(bIsVisible)` -/
def setHintVisibility (component : Option UWidgetComponent) (bIsVisible : Bool) :
    Exec (Option UWidgetComponent) :=
  match component with
  | none => pure none
  | some component => do
    let widget ← deref .interactionWidget component.widget
    pure (some {component with widget := some (widget.setHintVisibility bIsVisible)})

def nativeConstruct (component : Option UWidgetComponent) : Option UWidgetComponent :=
  component.map fun component => {component with widget := component.widget.map (·.nativeConstruct)}

def hintVisible (component : Option UWidgetComponent) : Bool :=
  component.any fun component => component.widget.any (·.hintVisible)

/-- A set component shows a widget of the interaction class. -/
def Shown (component : Option UWidgetComponent) : Prop :=
  ∀ shown, component = some shown → shown.widget.isSome

/-- Component, widget and text block are all set. -/
def bound (component : Option UWidgetComponent) : Bool :=
  component.any fun component => component.widget.any (·.interactionText.isSome)

def hinted (component : Option UWidgetComponent) (bIsVisible : Bool) : Option UWidgetComponent :=
  component.map fun component =>
    {component with widget := component.widget.map (·.setHintVisibility bIsVisible)}

theorem setHintVisibility_ok (component moved : Option UWidgetComponent) (bIsVisible : Bool)
    (ok : setHintVisibility component bIsVisible = .ok moved) : moved = hinted component bIsVisible := by
  cases component with
  | none => cases ok; rfl
  | some component =>
    obtain ⟨widget,found,same⟩ := bind_ok _ _ _ ok
    rw [deref_ok] at found
    cases same
    simp [hinted,found]

@[simp] theorem hintVisible_hinted (component : Option UWidgetComponent) (bIsVisible : Bool) :
    hintVisible (hinted component bIsVisible) = (bIsVisible && bound component) := by
  cases component with
  | none => simp [hintVisible,hinted,bound]
  | some component => cases shown : component.widget <;> simp [hintVisible,hinted,bound,shown]

@[simp] theorem hintVisible_nativeConstruct (component : Option UWidgetComponent) :
    hintVisible (nativeConstruct component) = false := by
  cases component with
  | none => rfl
  | some component => cases shown : component.widget <;> simp [hintVisible,nativeConstruct,shown]

end UWidgetComponent

structure UPlayerHUD where
  isBallInHandTextBlock : Option UTextBlock
  deriving DecidableEq,Repr

namespace UPlayerHUD

def updateHUD (hud : UPlayerHUD) (bIsBallInHand : Bool) : UPlayerHUD :=
  match hud.isBallInHandTextBlock with
  | none => hud
  | some block =>
    let block := if bIsBallInHand then {block with text := "Ball in hand!",colorAndOpacity := .green}
      else {block with text := "No ball in hand",colorAndOpacity := .red}
    {hud with isBallInHandTextBlock := some block}

def nativeConstruct (hud : UPlayerHUD) : UPlayerHUD := hud.updateHUD false

def saysBallInHand (hud : UPlayerHUD) : Bool :=
  hud.isBallInHandTextBlock.any (·.text == "Ball in hand!")

@[simp] theorem saysBallInHand_updateHUD (hud : UPlayerHUD) (bIsBallInHand : Bool) :
    (hud.updateHUD bIsBallInHand).saysBallInHand =
      (bIsBallInHand && hud.isBallInHandTextBlock.isSome) := by
  cases hud with
  | mk block => cases block <;> cases bIsBallInHand <;> rfl

@[simp] theorem isBallInHandTextBlock_isSome (hud : UPlayerHUD) (bIsBallInHand : Bool) :
    (hud.updateHUD bIsBallInHand).isBallInHandTextBlock.isSome = hud.isBallInHandTextBlock.isSome := by
  cases hud with
  | mk block => cases block <;> cases bIsBallInHand <;> rfl

end UPlayerHUD

end RetrievingAI
