import RetrievingAI.Effect

/-! The references that a level designer sets. No code assigns them, and a ball dropped from a chest
takes those of the class the chest names. -/
namespace RetrievingAI

variable {F : Type}

namespace UWidgetComponent

@[simp] theorem bound_hinted (component : Option UWidgetComponent) (bIsVisible : Bool) :
    bound (hinted component bIsVisible) = bound component := by
  cases component with
  | none => rfl
  | some component => cases shown : component.widget <;> simp [hinted,bound,shown]

@[simp] theorem bound_nativeConstruct (component : Option UWidgetComponent) :
    bound (nativeConstruct component) = bound component := by
  cases component with
  | none => rfl
  | some component =>
    cases shown : component.widget with
    | none => simp [nativeConstruct,bound,shown]
    | some widget =>
      cases text : widget.interactionText <;>
        simp [nativeConstruct,bound,shown,UInteractionWidget.nativeConstruct,text]

@[simp] theorem shown_hinted (component : Option UWidgetComponent) (bIsVisible : Bool) :
    Shown (hinted component bIsVisible) ↔ Shown component := by
  cases component with
  | none => simp [Shown,hinted]
  | some component => simp [Shown,hinted]

@[simp] theorem shown_nativeConstruct (component : Option UWidgetComponent) :
    Shown (nativeConstruct component) ↔ Shown component := by
  cases component with
  | none => simp [Shown,nativeConstruct]
  | some component => simp [Shown,nativeConstruct]

/-- The later component is set as far as the earlier one is. -/
structure Alike (earlier later : Option UWidgetComponent) : Prop where
  bound : bound later = bound earlier
  shown : Shown later ↔ Shown earlier

theorem Alike.refl (component : Option UWidgetComponent) : Alike component component := ⟨rfl,Iff.rfl⟩

theorem alike_hinted (component : Option UWidgetComponent) (bIsVisible : Bool) :
    Alike component (hinted component bIsVisible) := by
  constructor <;> simp

theorem alike_nativeConstruct (component : Option UWidgetComponent) :
    Alike component (nativeConstruct component) := by
  constructor <;> simp

end UWidgetComponent

namespace ABall

structure Alike (earlier later : ABall F) : Prop where
  aiCharacterClass : later.aiCharacterClass = earlier.aiCharacterClass
  widget : UWidgetComponent.Alike earlier.interactionWidgetComponent later.interactionWidgetComponent

structure OfClass (ballClass : BallClass) (ball : ABall F) : Prop where
  aiCharacterClass : ball.aiCharacterClass = ballClass.aiCharacterClass
  widget : UWidgetComponent.Alike ballClass.interactionWidgetComponent ball.interactionWidgetComponent

theorem Alike.refl (ball : ABall F) : ball.Alike ball := ⟨rfl,.refl _⟩

theorem alike_hinted (ball : ABall F) (bIsVisible : Bool) : ball.Alike (ball.hinted bIsVisible) := by
  unfold hinted
  split
  · exact .refl ball
  · exact ⟨rfl,UWidgetComponent.alike_hinted _ bIsVisible⟩

theorem alike_attachTo (ball : ABall F) (hand : HandSocket) : ball.Alike (ball.attachTo hand) :=
  ⟨rfl,.refl _⟩

theorem alike_landed (ball : ABall F) (blocked : Bool) : ball.Alike (ball.landed blocked) :=
  ⟨rfl,.refl _⟩

theorem Alike.trans {first second third : ABall F} (before : first.Alike second)
    (after : second.Alike third) : first.Alike third where
  aiCharacterClass := after.aiCharacterClass.trans before.aiCharacterClass
  widget := ⟨after.widget.bound.trans before.widget.bound,after.widget.shown.trans before.widget.shown⟩

variable [EngineFloat F]

theorem alike_launched (ball : ABall F) (strength : F) (direction : FVector F) :
    ball.Alike (ball.launched strength direction) := by
  have hidden := ({ball with ballMesh := ⟨true,none,direction.scale strength⟩} : ABall F).alike_hinted false
  exact ⟨hidden.aiCharacterClass,hidden.widget⟩

theorem new_ofClass (ballClass : BallClass) : (new ballClass : ABall F).OfClass ballClass :=
  ⟨rfl,UWidgetComponent.alike_nativeConstruct _⟩

omit [EngineFloat F] in
theorem OfClass.alike {ballClass : BallClass} {earlier later : ABall F}
    (named : earlier.OfClass ballClass) (alike : earlier.Alike later) : later.OfClass ballClass where
  aiCharacterClass := alike.aiCharacterClass.trans named.aiCharacterClass
  widget := ⟨alike.widget.bound.trans named.widget.bound,alike.widget.shown.trans named.widget.shown⟩

end ABall

namespace AChest

structure Alike (earlier later : AChest F) : Prop where
  ballBPClass : later.ballBPClass = earlier.ballBPClass
  widget : UWidgetComponent.Alike earlier.interactionWidgetComponent later.interactionWidgetComponent

theorem Alike.refl (chest : AChest F) : chest.Alike chest := ⟨rfl,.refl _⟩

theorem alike_hinted (chest : AChest F) (bIsVisible : Bool) : chest.Alike (chest.hinted bIsVisible) := by
  unfold hinted
  split
  · exact .refl chest
  · exact ⟨rfl,UWidgetComponent.alike_hinted _ bIsVisible⟩

theorem alike_interaction (chest moved : AChest F) (taken : chest.interaction = .ok moved) :
    chest.Alike moved := by
  rcases chest.interaction_ok moved taken with ⟨_,rfl⟩ | ⟨_,rfl⟩
  · exact .refl _
  · have hidden := ({chest with bTestBoolRotation := true} : AChest F).alike_hinted false
    exact ⟨hidden.ballBPClass,hidden.widget⟩

variable [EngineFloat F]

theorem alike_tick (E : Engine F) (chest : AChest F) (deltaTime : F) :
    chest.Alike (chest.tick E deltaTime) := by
  obtain ⟨widget,ballClass⟩ := chest.tick_keeps E deltaTime
  exact ⟨ballClass,by rw [widget]; exact .refl _⟩

theorem alike_fireTimer (chest : AChest F) : chest.Alike chest.fireTimer.1 := by
  obtain ⟨widget,ballClass,_⟩ := chest.fireTimer_keeps
  exact ⟨ballClass,by rw [widget]; exact .refl _⟩

end AChest

namespace World

/-- A ball with the references of the class that some chest of the world names. -/
def Supplies (world : World F) (ball : ABall F) : Prop :=
  ∃ ref chest ballClass, world.chests.read ref = some chest ∧ chest.ballBPClass = some ballClass ∧
    ball.OfClass ballClass

structure KeepsDefaults (world target : World F) : Prop where
  tree : target.player.behaviorTree = world.player.behaviorTree
  balls : Pool.Evolves ABall.Alike world.Supplies world.balls target.balls
  chests : Pool.Evolves AChest.Alike (fun _ => False) world.chests target.chests

theorem KeepsDefaults.refl (world : World F) : world.KeepsDefaults world :=
  ⟨rfl,.refl ABall.Alike.refl _,.refl AChest.Alike.refl _⟩

theorem KeepsDefaults.ball {world target : World F} (ref : Nat) (old new : ABall F)
    (found : world.balls.read ref = some old) (alike : old.Alike new)
    (tree : target.player.behaviorTree = world.player.behaviorTree)
    (written : target.balls = world.balls.write ref new) (kept : target.chests = world.chests) :
    world.KeepsDefaults target := by
  refine ⟨tree,?_,?_⟩
  · rw [written]
    exact .write ABall.Alike.refl _ ref old new found alike
  · rw [kept]
    exact .refl AChest.Alike.refl _

theorem KeepsDefaults.chest {world target : World F} (ref : Nat) (old new : AChest F)
    (found : world.chests.read ref = some old) (alike : old.Alike new)
    (tree : target.player.behaviorTree = world.player.behaviorTree)
    (kept : target.balls = world.balls) (written : target.chests = world.chests.write ref new) :
    world.KeepsDefaults target := by
  refine ⟨tree,?_,?_⟩
  · rw [kept]
    exact .refl ABall.Alike.refl _
  · rw [written]
    exact .write AChest.Alike.refl _ ref old new found alike

/-- Defaults that hold of every ball and of every class a chest names survive a step. -/
theorem KeepsDefaults.balls_all {world target : World F} (kept : world.KeepsDefaults target)
    {P : Option UClass → Option UWidgetComponent → Prop}
    (respects : ∀ aiCharacterClass earlier later, UWidgetComponent.Alike earlier later →
      P aiCharacterClass earlier → P aiCharacterClass later)
    (balls : world.balls.All fun ball => P ball.aiCharacterClass ball.interactionWidgetComponent)
    (classes : world.chests.All fun chest => ∀ ballClass, chest.ballBPClass = some ballClass →
      P ballClass.aiCharacterClass ballClass.interactionWidgetComponent) :
    target.balls.All fun ball => P ball.aiCharacterClass ball.interactionWidgetComponent := by
  apply balls.evolve kept.balls
  · intro old ball alike holds
    rw [alike.aiCharacterClass]
    exact respects _ _ _ alike.widget holds
  · intro ball supplied
    obtain ⟨ref,chest,ballClass,found,named,same⟩ := supplied
    rw [same.aiCharacterClass]
    exact respects _ _ _ same.widget (classes ref chest found ballClass named)

theorem KeepsDefaults.chests_all {world target : World F} (kept : world.KeepsDefaults target)
    {P : Option BallClass → Option UWidgetComponent → Prop}
    (respects : ∀ ballBPClass earlier later, UWidgetComponent.Alike earlier later →
      P ballBPClass earlier → P ballBPClass later)
    (chests : world.chests.All fun chest => P chest.ballBPClass chest.interactionWidgetComponent) :
    target.chests.All fun chest => P chest.ballBPClass chest.interactionWidgetComponent := by
  apply chests.evolve kept.chests
  · intro old chest alike holds
    rw [alike.ballBPClass]
    exact respects _ _ _ alike.widget holds
  · intro chest impossible
    contradiction

variable [EngineFloat F]

/-- No step assigns a reference that the editor sets. -/
theorem effect_keepsDefaults (E : Engine F) (world target : World F) (event : Event F)
    (calls : List GameCall) (effect : Effect E world event target calls) :
    world.KeepsDefaults target := by
  cases effect with
  | lookBall view ref ball traced found =>
    exact .ball ref ball _ found (ball.alike_hinted true) (by simp) rfl rfl
  | leaveBall view ref ball traced last found =>
    exact .ball ref ball _ found (ball.alike_hinted false) (by simp) rfl rfl
  | lookChest view ref chest traced found shown =>
    exact .chest ref chest _ found (chest.alike_hinted true) (by simp) rfl rfl
  | leaveChest view ref chest traced last found shown =>
    exact .chest ref chest _ found (chest.alike_hinted false) (by simp) rfl rfl
  | lookOn | stopIgnoring =>
    exact ⟨by simp,.refl ABall.Alike.refl _,.refl AChest.Alike.refl _⟩
  | pressNothing | pressBlocked | throwNothing | hitNothing | chaseOn | carryOn => exact .refl world
  | pickUp ref ball hud last found free display =>
    have taken := (ball.alike_attachTo .player).trans (ABall.alike_hinted _ false)
    exact .ball ref ball _ found taken rfl rfl rfl
  | pressChest ref chest moved last found taken =>
    exact .chest ref chest moved found (chest.alike_interaction moved taken) rfl rfl rfl
  | throw location ref ball hud hand found display =>
    have flies := ball.alike_launched world.player.throwStrength (world.player.throwDirection E location)
    refine .ball ref ball _ found ?_ rfl rfl rfl
    exact ⟨flies.aiCharacterClass,flies.widget⟩
  | land ref spawned ball found => exact .ball ref ball _ found (ball.alike_landed false) rfl rfl rfl
  | answer ref ball thrower tree retriever found =>
    exact .ball ref ball _ found (ball.alike_landed true) rfl rfl rfl
  | strand ref ball thrower found => exact .ball ref ball _ found (ball.alike_landed true) rfl rfl rfl
  | chestTick ref chest deltaTime found =>
    exact .chest ref chest _ found (chest.alike_tick E deltaTime) rfl rfl rfl
  | chestWait ref chest found => exact .chest ref chest _ found chest.alike_fireTimer rfl rfl rfl
  | chestDrop ref chest dropped ballClass found running drops class_ =>
    have named : chest.ballBPClass = some ballClass :=
      (chest.fireTimer_drops dropped drops).symm.trans class_
    have falls := (ABall.new_ofClass ballClass).alike
      (ABall.alike_launched _ dropped.dropStrength dropped.direction)
    exact ⟨rfl,.spawn ABall.Alike.refl _ _ ⟨ref,chest,ballClass,found,named,falls⟩,
      .write AChest.Alike.refl _ ref chest _ found chest.alike_fireTimer⟩
  | reach ref task distance retriever controler key ball found alive state named there =>
    exact .ball key ball _ there (ball.alike_attachTo _) rfl rfl rfl
  | deliver ref task distance retriever controler key ball found alive state named there =>
    have falls := ball.alike_launched ((1 : ℕ) : F) FVector.zeroVector
    refine .ball key ball _ there ?_ rfl rfl rfl
    exact ⟨falls.aiCharacterClass,falls.widget⟩

end World

end RetrievingAI
