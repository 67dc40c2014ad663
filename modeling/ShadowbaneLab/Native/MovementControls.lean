/-
# The movement controls

`Controls` of `movement_controls.h` and `.cpp`: who may move the actor, by hand or by automation,
and the native calls that this takes.  An early `return` of the code is an exception here.  The
native actuator answers from everything that happened so far; while one of its calls runs it may
call the controls again, as often as it likes.  Its two `const` questions only answer.
-/
import ShadowbaneLab.Foundation.Traced

namespace ShadowbaneLab.Native.Movement

open Foundation

/-! ## Numbers -/

/-- `float`, as far as its values are compared. -/
class Comparable (F : Type) extends Zero F, LT F, LE F, OfScientific F where
  decidableLT : DecidableLT F
  decidableLE : DecidableLE F
  isFinite : F → Bool

attribute [reducible, instance] Comparable.decidableLT Comparable.decidableLE

/-- `float`, with the operations that the controls use. -/
class Single (F : Type) extends Comparable F, Add F, Sub F, Neg F, Mul F, Div F, BEq F,
    NatCast F where
  abs : F → F
  hypot : F → F → F

/-- `float` itself; its `std::hypot` does not overflow in between. -/
instance : Single Float32 where
  zero := 0
  decidableLT := inferInstance
  decidableLE := inferInstance
  natCast := Float32.ofNat
  isFinite := Float32.isFinite
  abs := Float32.abs
  hypot x y := (x.toFloat * x.toFloat + y.toFloat * y.toFloat).sqrt.toFloat32

open Comparable Single

structure Vector2 (F : Type) where
  x : F
  y : F

structure GroundPoint (F : Type) where
  x : F
  y : F
  z : F

section Vectors

variable {F : Type} [Single F]

instance : Zero (Vector2 F) := ⟨⟨0, 0⟩⟩

def Vector2.finite (v : Vector2 F) : Bool := isFinite v.x && isFinite v.y

def GroundPoint.finite (v : GroundPoint F) : Bool := isFinite v.x && isFinite v.y && isFinite v.z

def Vector2.length (v : Vector2 F) : F := hypot v.x v.y

def Vector2.nonzero (v : Vector2 F) : Bool := v.x != 0 || v.y != 0

/-- `std::min`. -/
def least (x y : F) : F := if y < x then y else x

/-- `static_cast<float>` of a flag. -/
def ofBool (b : Bool) : F := if b then 1.0 else 0.0

/-- `RadialDirection`. -/
def radialDirection (value : Vector2 F) (deadZone : F) : Vector2 F :=
  if ¬ value.finite ∨ ¬ isFinite deadZone ∨ deadZone < 0 ∨ 1.0 ≤ deadZone then 0
  else
    let length := value.length
    if ¬ isFinite length ∨ length ≤ deadZone then 0
    else ⟨value.x / length, value.y / length⟩

/-- `RadialCamera`. -/
def radialCamera (value : Vector2 F) (deadZone : F) : Vector2 F :=
  let direction := radialDirection value deadZone
  if ¬ direction.nonzero then 0
  else
    let magnitude := (least value.length 1.0 - deadZone) / (1.0 - deadZone)
    ⟨direction.x * magnitude, direction.y * magnitude⟩

end Vectors

/-! ## Grants -/

/-- `std::array<char, 96>`. -/
abbrev Text : Type := Vector UInt8 96

/-- The characters from one of a text on, where `ended` says that a zero was seen. -/
def validTokenChars (ended : Bool) : List UInt8 → Bool
  | [] => ended
  | c :: text =>
    if c = 0 then validTokenChars true text
    else if ended ∨ c < 0x21 ∨ 0x7E < c then false
    else validTokenChars ended text

/-- `ValidTokenText`. -/
def validTokenText (text : Text) : Bool := text[0] ≠ 0 ∧ validTokenChars false text.toList

structure Token where
  worker : Text := .replicate 96 0
  operation : Text := .replicate 96 0
deriving DecidableEq

inductive Owner
  | none
  | automation
  | manual
deriving DecidableEq

structure Grant where
  generation : UInt64 := 0
  scene : UInt64 := 0
  owner : Owner := .none
  token : Token := {}
deriving DecidableEq

inductive StopReason
  | release
  | takeover
  | focus
  | ui
  | disabled
  | deviceLost
  | captureLost
  | sceneChanged
  | stalled
  | shutdown
  | bindingFailure
deriving DecidableEq

inductive Result
  | accepted
  | stale
  | unavailable
  | inhibited
  | stopFailed
  | invalid
deriving DecidableEq

/-! ## Controller profiles -/

/-- `ControllerBinding`; its codes come from outside and may be of no action or control. -/
structure ControllerBinding where
  action : UInt8 := 0
  control : UInt8 := 0
  modifiers : UInt8 := 0
deriving DecidableEq

/-- `ControllerProfile`. -/
abbrev ControllerProfile : Type := Vector ControllerBinding 24

namespace ControllerAction

def none : UInt8 := 0
def movement : UInt8 := 1
def camera : UInt8 := 2
def cancelMovement : UInt8 := 3

end ControllerAction

namespace ControllerControl

def none : UInt8 := 0
def leftStick : UInt8 := 1
def rightStick : UInt8 := 2
def b : UInt8 := 4
def leftShoulder : UInt8 := 15
def rightShoulder : UInt8 := 16
def rightTrigger : UInt8 := 18

end ControllerControl

namespace ControllerProfile

/-- The profile of new settings. -/
def initial : ControllerProfile :=
  (((Vector.replicate 24 {}).set 0 ⟨ControllerAction.movement, ControllerControl.leftStick, 0⟩).set 1
    ⟨ControllerAction.camera, ControllerControl.rightStick, 0⟩).set 2
    ⟨ControllerAction.cancelMovement, ControllerControl.b, 0⟩

/-- The bindings of a control from one on, where `fallback` is the last without modifiers. -/
def resolve (control modifiers fallback : UInt8) : List ControllerBinding → UInt8
  | [] => fallback
  | b :: rest =>
    if b.control ≠ control ∨ b.action = ControllerAction.none then
      resolve control modifiers fallback rest
    else if b.modifiers = modifiers then b.action
    else resolve control modifiers (if b.modifiers = 0 then b.action else fallback) rest

/-- `ResolveControllerAction`. -/
def action (profile : ControllerProfile) (control modifiers : UInt8) : UInt8 :=
  resolve control modifiers ControllerAction.none profile.toList

/-- The bindings from one on, after the ones in `seen`; `ended` says that one was empty. -/
def validBindings (seen : List ControllerBinding) (ended : Bool) : List ControllerBinding → Bool
  | [] => true
  | b :: rest =>
    if b.action = ControllerAction.none then
      if b.control ≠ ControllerControl.none ∨ b.modifiers ≠ 0 then false
      else validBindings (seen ++ [b]) true rest
    else if ended ∨ 3 < b.modifiers ∨ ControllerAction.cancelMovement < b.action ∨
        b.control ≤ ControllerControl.none ∨ ControllerControl.rightTrigger < b.control then false
    else if decide (b.control = ControllerControl.leftStick ∨
        b.control = ControllerControl.rightStick) ≠
        decide (b.action = ControllerAction.movement ∨ b.action = ControllerAction.camera) then
      false
    else if seen.any fun other => other.control = b.control ∧ other.modifiers = b.modifiers then
      false
    else validBindings (seen ++ [b]) ended rest

/-- `ValidControllerProfile`. -/
def valid (profile : ControllerProfile) : Bool :=
  let modifiersUsed := profile.toList.foldl (fun used b => used ||| b.modifiers) 0
  validBindings [] false profile.toList &&
    (profile.toList.all fun b =>
      ¬ (modifiersUsed &&& 1 ≠ 0 ∧ b.control = ControllerControl.leftShoulder ∨
        modifiersUsed &&& 2 ≠ 0 ∧ b.control = ControllerControl.rightShoulder)) &&
    ([0, 1, 2, 3].all fun modifiers =>
      let left := profile.action ControllerControl.leftStick modifiers
      let right := profile.action ControllerControl.rightStick modifiers
      ¬ (left ≠ ControllerAction.none ∧ left = right))

end ControllerProfile

/-! ## Settings and input -/

structure Settings (F : Type) where
  enabled : Bool := false
  keyboard : Bool := true
  controller : Bool := false
  drag : Bool := true
  forward : UInt16 := 0x57
  backward : UInt16 := 0x53
  left : UInt16 := 0x41
  right : UInt16 := 0x44
  controllerSlot : UInt32 := 0
  controllerProfile : ControllerProfile := .initial
  movementDeadZone : F
  cameraDeadZone : F
  cameraRadiansPerSecond : F
  invertCameraX : Bool := false
  invertCameraY : Bool := false
  dragButton : UInt16 := 0x05
  dragThresholdPixels : F

structure DragPress (F : Type) where
  x : F
  y : F
  groundValid : Bool

structure Input (F : Type) where
  tickMs : UInt64
  scene : UInt64
  nativeAvailable : Bool
  exactForeground : Bool
  uiOwnsInput : Bool
  textOwnsInput : Bool
  keys : Fin 256 → Bool
  controllerConnected : Bool
  controllerSlot : UInt32
  controllerButtons : UInt16
  leftTrigger : F
  rightTrigger : F
  leftStick : Vector2 F
  rightStick : Vector2 F
  cameraBlocked : Bool
  cameraBasisValid : Bool
  cameraForward : Vector2 F
  cameraRight : Vector2 F
  pointerInWorld : Bool
  captureValid : Bool
  pressOrigin : Option (DragPress F)
  pointerX : F
  pointerY : F
  groundValid : Bool
  ground : GroundPoint F

namespace Settings

variable {F : Type} [Comparable F]

/-- The settings of new controls. -/
def initial : Settings F where
  movementDeadZone := 0.20
  cameraDeadZone := 0.15
  cameraRadiansPerSecond := 2.0
  dragThresholdPixels := 6.0

def keys (s : Settings F) : List UInt16 := [s.forward, s.backward, s.left, s.right]

/-- `ValidSettings`. -/
def valid (s : Settings F) : Bool :=
  (s.keys.all fun key => 0x08 ≤ key ∧ key ≤ 0xFE) && decide s.keys.Nodup &&
    s.controllerProfile.valid && decide (s.controllerSlot < 4) &&
    isFinite s.movementDeadZone && decide (0.05 ≤ s.movementDeadZone) &&
    decide (s.movementDeadZone < 0.95) &&
    isFinite s.cameraDeadZone && decide (0.05 ≤ s.cameraDeadZone) &&
    decide (s.cameraDeadZone < 0.95) &&
    isFinite s.cameraRadiansPerSecond && decide (0 < s.cameraRadiansPerSecond) &&
    decide (s.cameraRadiansPerSecond ≤ 10.0) &&
    decide (s.dragButton = 1 ∨ s.dragButton = 4 ∨ s.dragButton = 5 ∨ s.dragButton = 6) &&
    isFinite s.dragThresholdPixels && decide (2.0 ≤ s.dragThresholdPixels) &&
    decide (s.dragThresholdPixels ≤ 64.0)

end Settings

section Inputs

variable {F : Type} [Single F]

namespace Input

variable (input : Input F)

/-- A key is down. -/
def down (key : UInt16) : Bool :=
  if h : key.toNat < 256 then input.keys ⟨key.toNat, h⟩ else false

/-- `Basis`. -/
def basis : Bool :=
  if ¬ input.cameraBasisValid ∨ ¬ input.cameraForward.finite ∨ ¬ input.cameraRight.finite then false
  else
    let f := input.cameraForward
    let r := input.cameraRight
    decide (Single.abs (f.length - 1.0) < 0.01) && decide (Single.abs (r.length - 1.0) < 0.01) &&
      decide (Single.abs (f.x * r.x + f.y * r.y) < 0.01)

/-- `WorldDirection`. -/
def worldDirection (direction : Vector2 F) : Vector2 F :=
  radialDirection
    ⟨input.cameraRight.x * direction.x + input.cameraForward.x * direction.y,
      input.cameraRight.y * direction.x + input.cameraForward.y * direction.y⟩ 0

/-- The direction of the keys. -/
def keyDirection (settings : Settings F) : Vector2 F :=
  radialDirection
    ⟨ofBool (input.down settings.right) - ofBool (input.down settings.left),
      ofBool (input.down settings.forward) - ofBool (input.down settings.backward)⟩ 0

/-- The controller of the settings is there and reads as it should. -/
def connected (settings : Settings F) : Bool :=
  settings.controller && input.controllerConnected &&
    decide (input.controllerSlot = settings.controllerSlot) &&
    input.leftStick.finite && input.rightStick.finite &&
    isFinite input.leftTrigger && isFinite input.rightTrigger &&
    decide (0 ≤ input.leftTrigger) && decide (input.leftTrigger ≤ 1.0) &&
    decide (0 ≤ input.rightTrigger) && decide (input.rightTrigger ≤ 1.0)

/-- The shoulders that are held. -/
def modifiers : UInt8 :=
  (if input.controllerButtons &&& 0x100 ≠ 0 then 1 else 0) |||
    (if input.controllerButtons &&& 0x200 ≠ 0 then 2 else 0)

/-- The action of each stick, with what it reads. -/
def sticks (settings : Settings F) : List (UInt8 × Vector2 F) :=
  [(settings.controllerProfile.action ControllerControl.leftStick input.modifiers,
      input.leftStick),
    (settings.controllerProfile.action ControllerControl.rightStick input.modifiers,
      input.rightStick)]

/-- The direction of the stick that moves. -/
def stick (settings : Settings F) : Vector2 F :=
  (input.sticks settings).foldl (fun old (action, value) =>
    if action = ControllerAction.movement then radialDirection value settings.movementDeadZone
    else old) 0

/-- What the stick of the camera reads. -/
def camera (settings : Settings F) : Vector2 F :=
  (input.sticks settings).foldl (fun old (action, value) =>
    if action = ControllerAction.camera then radialCamera value settings.cameraDeadZone else old) 0

/-- Nothing of the controller is held. -/
def neutral (settings : Settings F) : Bool :=
  let zone := least settings.movementDeadZone settings.cameraDeadZone
  decide (input.controllerButtons = 0) && decide (input.leftTrigger ≤ 0.2) &&
    decide (input.rightTrigger ≤ 0.2) && ¬ (radialDirection input.leftStick zone).nonzero &&
    ¬ (radialDirection input.rightStick zone).nonzero

/-- The bits of the buttons from `a` on. -/
def buttonBits : List UInt16 :=
  [0x1000, 0x2000, 0x4000, 0x8000, 1, 2, 4, 8, 0x10, 0x20, 0x40, 0x80, 0x100, 0x200]

/-- Whether each control from `a` on is held. -/
def held : List Bool :=
  (buttonBits.map fun bit => decide (input.controllerButtons &&& bit ≠ 0)) ++
    [decide (0.2 < input.leftTrigger), decide (0.2 < input.rightTrigger)]

/-- A control that cancels the movement is held. -/
def cancels (settings : Settings F) : Bool :=
  input.held.zipIdx.any fun (down, n) =>
    down && settings.controllerProfile.action (UInt8.ofNat (n + 3)) input.modifiers =
      ControllerAction.cancelMovement

end Input

end Inputs

/-! ## The controls -/

structure Controls (F : Type) where
  settings : Settings F
  grant : Grant := { generation := 1 }
  pendingGrant : Grant := {}
  pendingReason : StopReason := .release
  pendingStop : Bool := false
  actuating : Bool := false
  shutdownPending : Bool := false
  isShutdown : Bool := false
  moving : Bool := false
  nativeActivity : Bool := false
  coordinateOnly : Bool := false
  available : Bool := false
  faulted : Bool := false
  cameraFaulted : Bool := false
  foreground : Bool := false
  textOwned : Bool := false
  keyboardArmed : Bool := false
  controllerArmed : Bool := false
  dragArmed : Bool := false
  controllerConnected : Bool := false
  dragPending : Bool := false
  dragActive : Bool := false
  previousDragDown : Bool := false
  dragOriginX : F
  dragOriginY : F
  lastTick : UInt64 := 0
  hasTick : Bool := false

/-- The public calls that change the controls. -/
inductive Call (F : Type)
  | configure (settings : Settings F)
  | tick (input : Input F)
  | observeScene (scene : UInt64)
  | observeParentScene (scene : UInt64) (manualAdmitted : Bool) (tickMs : UInt64)
  | acquireAutomation (expected : UInt64) (token : Token) (coordinateOnly : Bool)
  | observeCoordinateParentScene (scene : UInt64) (admitted : Bool) (tickMs : UInt64)
  | automationDestination (grant : Grant) (point : GroundPoint F)
  | beginAutomationNativeAction (grant : Grant)
  | pauseAutomation (grant : Grant)
  | stop (grant : Grant) (reason : StopReason)
  | emergencyStop (grant : Grant) (reason : StopReason)
  | shutdown

/-- The calls of `NativeActuator` that act. -/
inductive Callback (F : Type)
  | stop (grant : Grant) (reason : StopReason)
  | direction (grant : Grant) (value : Vector2 F) (start : Bool)
  | destination (grant : Grant) (point : GroundPoint F) (start : Bool)
  | camera (radians : Vector2 F)
  | revoked (old new : Grant) (reason : StopReason)
  | sceneRetired (scene : UInt64)

inductive Event (F : Type)
  | called (call : Call F)
  | begins (callback : Callback F)
  | ends (callback : Callback F) (ok : Bool)
  | interrupted (reason : Option StopReason)
  | leaseCurrent (grant : Grant) (current : Bool)

/-- An event, with the grant that was current at it. -/
structure Entry (F : Type) where
  grant : Grant
  event : Event F

/-- The controls and all that happened. -/
abbrev Run (F : Type) : Type := Traced (Controls F) (Entry F)

/-- `NativeActuator`: what it answers, and which calls it makes before that. -/
structure Actuator (F : Type) where
  calls : List (Entry F) → Callback F → List (Call F)
  ok : List (Entry F) → Callback F → Bool
  interrupted : List (Entry F) → Option StopReason
  leaseCurrent : List (Entry F) → Grant → Bool

/-- Computations that may return early with a value of `ρ`. -/
abbrev M (F ρ : Type) : Type → Type := EStateM ρ (Run F)

namespace Controls

variable {F ρ : Type} [Single F]

/-- New controls. -/
def initial : Controls F where
  settings := .initial
  dragOriginX := 0
  dragOriginY := 0

/-- `CoordinateOnly`. -/
def onlyCoordinates (c : Controls F) : Bool := c.coordinateOnly ∧ c.grant.owner = .automation

def read : M F ρ (Controls F) := do return (← get).state

/-- Writes an event down. -/
def log (event : Event F) : M F ρ Unit :=
  modify fun s => { s with trace := s.trace ++ [⟨s.state.grant, event⟩] }

def returnIf (condition : Bool) (value : ρ) : M F ρ Unit :=
  if condition then throw value else pure ()

def whenever (condition : Bool) (program : M F ρ Unit) : M F ρ Unit :=
  if condition then program else pure ()

section Code

variable (actuator : Actuator F) (enter : List (Call F) → Run F → Run F)

/-- A call of the actuator under the `ActuationGuard`. -/
def callback (callback : Callback F) : M F ρ Bool := do
  Traced.update fun c => { c with actuating := true }
  log (.begins callback)
  modify fun s => enter (actuator.calls s.trace callback) s
  let ok := actuator.ok (← get).trace callback
  log (.ends callback ok)
  Traced.update fun c => { c with actuating := false }
  return ok

def interrupted : M F ρ (Option StopReason) := do
  let reason := actuator.interrupted (← get).trace
  log (.interrupted reason)
  return reason

def leaseCurrent (grant : Grant) : M F ρ Bool := do
  let current := actuator.leaseCurrent (← get).trace grant
  log (.leaseCurrent grant current)
  return current

/-! ### Stops -/

/-- `RetryStop`. -/
def retryStop : M F ρ Bool := do
  let c ← read
  if ¬ c.pendingStop then return true
  else if ← callback actuator enter (.stop c.pendingGrant c.pendingReason) then
    Traced.update fun c => { c with pendingStop := false }
    return true
  else return false

/-- `StopActive`. -/
def stopActive (reason : StopReason) : M F ρ Bool := do
  if ← retryStop actuator enter then
    let c ← read
    if ¬ c.moving ∧ ¬ c.nativeActivity ∧ reason ≠ .takeover then return true
    else
      Traced.update fun c => { c with moving := false, nativeActivity := false }
      if ← callback actuator enter (.stop c.grant reason) then return true
      else
        Traced.update fun c =>
          { c with pendingGrant := c.grant, pendingReason := reason, pendingStop := true }
        return false
  else return false

/-- The part of `Retire` that replaces the grant, which fails at the last generation. -/
def replaceGrant (old : Grant) (reason : StopReason) (next : Owner) (token : Token)
    (scene : Option UInt64) : M F ρ Bool := do
  let c ← read
  if c.grant.generation = 0xFFFFFFFFFFFFFFFF then
    Traced.update fun c =>
      { c with available := false, grant := { c.grant with owner := .none } }
    return false
  else
    Traced.update fun c =>
      { c with
        grant := ⟨c.grant.generation + 1, scene.getD c.grant.scene, next, token⟩
        coordinateOnly := if next ≠ .automation then false else c.coordinateOnly }
    let c ← read
    let _ ← callback actuator enter (.revoked old c.grant reason)
    return true

/-- `Retire`, with what inhibits after an interruption. -/
def retireWith (inhibit : StopReason → M F ρ Unit) (reason : StopReason) (next : Owner)
    (token : Token) (scene : Option UInt64) : M F ρ Bool := do
  let c ← read
  let stopped ← stopActive actuator enter reason
  if next = .none then
    let replaced ← replaceGrant actuator enter c.grant reason next token scene
    return replaced && stopped
  else
    match ← interrupted actuator with
    | none =>
      let replaced ← replaceGrant actuator enter c.grant reason next token scene
      return replaced && stopped
    | some reason =>
      let replaced ← replaceGrant actuator enter c.grant reason .none {} scene
      whenever replaced (inhibit reason)
      return false

/-- No input counts until it is armed again. -/
def disarmed (c : Controls F) : Controls F :=
  { c with
    keyboardArmed := false, controllerArmed := false, dragArmed := false
    dragPending := false, dragActive := false, previousDragDown := false }

/-- `Inhibit`; what `Retire` does without a next owner never inhibits. -/
def inhibit (reason : StopReason) : M F ρ Unit := do
  let c ← read
  whenever (c.grant.owner ≠ .none) do
    let _ ← retireWith actuator enter (fun _ => pure ()) reason .none {} none
  Traced.update fun c => { disarmed c with foreground := false }

/-- `Retire`. -/
def retire (reason : StopReason) (next : Owner) (token : Token) (scene : Option UInt64) :
    M F ρ Bool :=
  retireWith actuator enter (inhibit actuator enter) reason next token scene

/-- `ContinueInput`. -/
def continueInput : M F ρ Bool := do
  match ← interrupted actuator with
  | none => return true
  | some reason =>
    inhibit actuator enter reason
    return false

/-- `Shutdown`. -/
def shutdown : M F ρ Unit := do
  let c ← read
  if c.actuating then Traced.update fun c => { c with shutdownPending := true }
  else
    Traced.update fun c =>
      { c with
        shutdownPending := false, isShutdown := true
        settings := { c.settings with enabled := false } }
    inhibit actuator enter .shutdown
    let _ ← retryStop actuator enter
    Traced.update fun c => { c with available := false }

/-- A pending shutdown comes before anything else. -/
def shutdownIfPending (value : ρ) : M F ρ Unit := do
  let c ← read
  whenever c.shutdownPending do
    shutdown actuator enter
    throw value

/-! ### Automation -/

/-- New settings disarm all input, and stop anything but automation. -/
def disable : M F ρ Unit := do
  let c ← read
  if c.grant.owner ≠ .automation then inhibit actuator enter .disabled
  else Traced.update disarmed

/-- `Configure`. -/
def configure (settings : Settings F) : M F Result Result := do
  let c ← read
  returnIf (c.actuating || c.isShutdown) .inhibited
  returnIf (¬ settings.valid) .invalid
  disable actuator enter
  shutdownIfPending actuator enter .inhibited
  Traced.update fun c =>
    { c with
      settings := settings
      faulted := false, cameraFaulted := false
      available := if c.grant.owner ≠ .automation then false else c.available
      hasTick := false }
  let c ← read
  return if c.pendingStop then .stopFailed else .accepted

/-- `AcquireAutomation`, with the new grant when it is accepted. -/
def acquireAutomation (expected : UInt64) (token : Token) (coordinateOnly : Bool) :
    M F Result Grant := do
  let c ← read
  returnIf (c.actuating || c.shutdownPending) .inhibited
  returnIf (expected ≠ c.grant.generation) .stale
  returnIf (¬ validTokenText token.worker ∨ ¬ validTokenText token.operation) .invalid
  returnIf (¬ c.available) .unavailable
  returnIf (¬ (← continueInput actuator enter)) .inhibited
  let c ← read
  returnIf (¬ c.foreground ∨ c.textOwned ∨ c.grant.owner = .manual ∧ c.moving) .inhibited
  returnIf (¬ (← retryStop actuator enter)) .stopFailed
  if ← retire actuator enter .takeover .automation token none then
    shutdownIfPending actuator enter .inhibited
    Traced.update fun c => { c with coordinateOnly }
    return (← read).grant
  else
    let reason ← interrupted actuator
    throw (if reason.isSome then .inhibited else .stopFailed)

/-- `AutomationDestination`. -/
def automationDestination (grant : Grant) (point : GroundPoint F) : M F Result Result := do
  let c ← read
  returnIf (c.actuating || c.shutdownPending) .inhibited
  returnIf (grant ≠ c.grant ∨ grant.owner ≠ .automation) .stale
  returnIf (¬ point.finite) .invalid
  returnIf (¬ (← continueInput actuator enter)) .inhibited
  let c ← read
  returnIf (¬ c.available ∨ ¬ c.foreground ∨ c.textOwned) .inhibited
  returnIf (¬ (← retryStop actuator enter)) .stopFailed
  let c ← read
  Traced.update fun c => { c with moving := true }
  let accepted ← callback actuator enter (.destination c.grant point (¬ c.moving))
  returnIf (¬ (← continueInput actuator enter)) .inhibited
  shutdownIfPending actuator enter .inhibited
  if accepted then return .accepted
  else
    inhibit actuator enter .bindingFailure
    Traced.update fun c => { c with faulted := true, available := false }
    return .unavailable

/-- `BeginAutomationNativeAction`. -/
def beginAutomationNativeAction (grant : Grant) : M F Result Result := do
  let c ← read
  returnIf c.onlyCoordinates .inhibited
  returnIf (c.actuating || c.shutdownPending) .inhibited
  returnIf (grant ≠ c.grant ∨ grant.owner ≠ .automation) .stale
  returnIf (¬ (← continueInput actuator enter)) .inhibited
  let c ← read
  returnIf (¬ c.available ∨ ¬ c.foreground ∨ c.textOwned) .inhibited
  returnIf (¬ (← retryStop actuator enter)) .stopFailed
  returnIf (¬ (← continueInput actuator enter)) .inhibited
  let c ← read
  returnIf (grant ≠ c.grant) .inhibited
  Traced.update fun c => { c with nativeActivity := true }
  return .accepted

/-- `PauseAutomation`. -/
def pauseAutomation (grant : Grant) : M F Result Result := do
  let c ← read
  returnIf (c.actuating || c.shutdownPending) .inhibited
  returnIf (grant ≠ c.grant ∨ grant.owner ≠ .automation) .stale
  returnIf (¬ (← stopActive actuator enter .release)) .stopFailed
  returnIf (¬ (← continueInput actuator enter)) .inhibited
  return .accepted

/-- `Stop`. -/
def stop (grant : Grant) (reason : StopReason) : M F Result Result := do
  let c ← read
  returnIf c.actuating .inhibited
  returnIf (grant ≠ c.grant) .stale
  let retired ← retire actuator enter reason .none {} none
  return if retired then .accepted else .stopFailed

/-- `EmergencyStop`. -/
def emergencyStop (grant : Grant) (reason : StopReason) : M F Result Result := do
  let c ← read
  returnIf c.actuating .inhibited
  returnIf (grant ≠ c.grant) .stale
  inhibit actuator enter reason
  let c ← read
  return if c.pendingStop then .stopFailed else .accepted

/-! ### Scenes -/

/-- What belonged to the old scene is retired without a stop. -/
def retireScene : M F ρ Unit := do
  let c ← read
  let _ ← callback actuator enter (.sceneRetired c.grant.scene)
  Traced.update fun c => { c with moving := false, nativeActivity := false, pendingStop := false }

/-- `ObserveScene`. -/
def observeScene (scene : UInt64) : M F ρ Unit := do
  let c ← read
  if c.actuating ∨ scene = c.grant.scene then pure ()
  else
    retireScene actuator enter
    let _ ← retire actuator enter .sceneChanged .none {} (some scene)
    inhibit actuator enter .sceneChanged
    Traced.update fun c => { c with hasTick := false }

/-- `ObserveCoordinateParentScene`. -/
def observeCoordinateParentScene (scene : UInt64) (admitted : Bool) (tickMs : UInt64) :
    M F Bool Bool := do
  let c ← read
  returnIf (c.actuating || scene = 0 || scene = c.grant.scene || c.isShutdown ||
    c.shutdownPending || !admitted || !c.onlyCoordinates || !c.available || !c.foreground ||
    c.textOwned || c.faulted || c.pendingStop || c.nativeActivity) false
  let reason ← interrupted actuator
  returnIf (reason.isSome || c.hasTick && tickMs < c.lastTick) false
  retireScene actuator enter
  returnIf (¬ (← retire actuator enter .sceneChanged .automation c.grant.token (some scene))) false
  Traced.update fun c => { c with hasTick := false }
  returnIf (¬ (← stopActive actuator enter .takeover)) false
  returnIf (¬ (← continueInput actuator enter)) false
  let c ← read
  return c.onlyCoordinates ∧ c.grant.scene = scene

/-- Manual control may go on in a new parent scene, as far as the controls know. -/
def mayPreserve (c : Controls F) (manualAdmitted : Bool) : Bool :=
  manualAdmitted && c.settings.enabled && c.grant.owner = .manual && c.available && c.foreground &&
    !c.faulted && !c.pendingStop

/-- The rest of `ObserveParentScene` after the old scene was retired. -/
def settleParentScene (preserve : Bool) (scene : UInt64) : M F Bool Bool := do
  let next := if preserve then .manual else .none
  let retired ← retire actuator enter .sceneChanged next {} (some scene)
  Traced.update fun c => { c with hasTick := false }
  whenever (!preserve) (inhibit actuator enter .sceneChanged)
  let stopped ← stopActive actuator enter .takeover
  if ¬ retired ∨ ¬ stopped then
    inhibit actuator enter .sceneChanged
    return false
  else if ← continueInput actuator enter then
    return preserve ∧ (← read).grant.owner = .manual
  else
    inhibit actuator enter .sceneChanged
    return false

/-- `ObserveParentScene`. -/
def observeParentScene (scene : UInt64) (manualAdmitted : Bool) (tickMs : UInt64) :
    M F Bool Bool := do
  let c ← read
  returnIf (c.actuating || scene = 0 || scene = c.grant.scene || c.isShutdown ||
    c.shutdownPending) false
  if c.grant.owner = .none ∧ ¬ c.pendingStop then
    observeScene actuator enter scene
    return false
  else if c.mayPreserve manualAdmitted then
    let reason ← interrupted actuator
    let preserve := reason.isNone && (!c.hasTick || c.lastTick ≤ tickMs)
    retireScene actuator enter
    settleParentScene actuator enter preserve scene
  else
    retireScene actuator enter
    settleParentScene actuator enter false scene

/-! ### Ticks -/

/-- The start of `Tick`: what it takes from the input before it looks at anything else. -/
def sampled (input : Input F) (c : Controls F) : Controls F :=
  { c with
    lastTick := input.tickMs
    hasTick := true
    textOwned := input.textOwnsInput
    available := !c.faulted && input.nativeAvailable && input.scene ≠ 0 }

/-- Why an input that does not count inhibits. -/
def inhibition (input : Input F) (clockRegressed : Bool) : StopReason :=
  if ¬ input.nativeAvailable then .bindingFailure
  else if clockRegressed then .stalled
  else if ¬ input.exactForeground then .focus
  else .ui

/-- The keyboard and the pointer count for nothing while text takes them. -/
def withoutText (c : Controls F) : Controls F :=
  { c with
    keyboardArmed := false, dragArmed := false
    dragPending := false, dragActive := false, previousDragDown := false }

/-- The controls after the keys and the controller were read. -/
def armed (input : Input F) (c : Controls F) : Controls F :=
  let connected := input.connected c.settings
  let allKeysUp := c.settings.keys.all fun key => ¬ input.down key
  { c with
    keyboardArmed := c.keyboardArmed || allKeysUp && !c.textOwned
    controllerArmed := connected && (c.controllerConnected && c.controllerArmed ||
      input.neutral c.settings)
    controllerConnected := connected }

/-- A drag that began with this input. -/
def pressed (input : Input F) (cleanupReady : Bool) (c : Controls F) : Controls F :=
  match input.pressOrigin with
  | none =>
    { c with
      dragPending := input.pointerInWorld &&
        (!cleanupReady || input.groundValid && input.ground.finite) &&
        isFinite input.pointerX && isFinite input.pointerY
      dragOriginX := input.pointerX
      dragOriginY := input.pointerY }
  | some press =>
    { c with
      dragPending := (!cleanupReady || press.groundValid) && input.pointerInWorld &&
        isFinite press.x && isFinite press.y
      dragOriginX := press.x
      dragOriginY := press.y }

/-- The controls after the drag was read, and whether it lost its capture. -/
def dragged (input : Input F) (cleanupReady : Bool) (c : Controls F) : Controls F × Bool :=
  let down := c.settings.drag && !c.textOwned && input.down c.settings.dragButton
  let c := if !down && !c.textOwned then { c with dragArmed := true } else c
  let c := if down && !c.previousDragDown && c.dragArmed then pressed input cleanupReady c else c
  let c := { c with previousDragDown := down }
  let lostCapture := (c.dragPending || c.dragActive) &&
    (!input.pointerInWorld || !input.captureValid)
  let c := if !down || lostCapture then
      { c with
        dragActive := false, dragPending := false
        dragArmed := if lostCapture then false else c.dragArmed }
    else c
  let c := if c.dragPending && down && isFinite input.pointerX && isFinite input.pointerY &&
      decide (c.settings.dragThresholdPixels ≤
        hypot (input.pointerX - c.dragOriginX) (input.pointerY - c.dragOriginY)) then
      { c with dragPending := false, dragActive := true }
    else c
  (c, lostCapture)

/-- The camera follows its stick. -/
def moveCamera (input : Input F) (seconds : F) : M F Unit Unit := do
  let c ← read
  let camera := input.camera c.settings
  let scale := c.settings.cameraRadiansPerSecond * seconds
  let accepted ← callback actuator enter (.camera
    ⟨camera.x * scale * (if c.settings.invertCameraX then 1.0 else -1.0),
      camera.y * scale * (if c.settings.invertCameraY then -1.0 else 1.0)⟩)
  returnIf (¬ (← continueInput actuator enter)) ()
  shutdownIfPending actuator enter ()
  whenever (!accepted) (Traced.update fun c => { c with cameraFaulted := true })

/-- Manual control takes over and moves. -/
def moveManually (move : Grant → Bool → Callback F) : M F Unit Unit := do
  let c ← read
  whenever (c.grant.owner ≠ .manual) do
    returnIf (¬ (← retire actuator enter .takeover .manual {} none)) ()
  shutdownIfPending actuator enter ()
  let c ← read
  Traced.update fun c => { c with moving := true }
  let accepted ← callback actuator enter (move c.grant (¬ c.moving))
  returnIf (¬ (← continueInput actuator enter)) ()
  shutdownIfPending actuator enter ()
  whenever (!accepted) do
    inhibit actuator enter .bindingFailure
    Traced.update fun c => { c with faulted := true, available := false }

/-- After the shutdown a tick only retries the stop. -/
def retryIfShutdown : M F Unit Unit := do
  let c ← read
  whenever c.isShutdown do
    let _ ← retryStop actuator enter
    throw ()

/-- An input that does not count. -/
def refuse (input : Input F) (clockRegressed : Bool) : M F Unit Unit := do
  inhibit actuator enter (inhibition input clockRegressed)
  whenever input.nativeAvailable do
    let _ ← retryStop actuator enter
  throw ()

/-- After a gap, automation goes on only under a current lease. -/
def checkLease (discontinuity : Bool) : M F Unit Unit := do
  let c ← read
  whenever (discontinuity ∧ c.grant.owner = .automation ∧ ¬ c.textOwned) do
    let current ← leaseCurrent actuator c.grant
    whenever (!current) do
      inhibit actuator enter .stalled
      throw ()

/-- After a gap, what was moved by hand or by nobody is stopped. -/
def stopStalled (discontinuity : Bool) : M F Unit Unit := do
  let c ← read
  whenever (discontinuity ∧ c.grant.owner ≠ .automation) do
    returnIf (¬ (← stopActive actuator enter .stalled)) ()
    returnIf (¬ (← continueInput actuator enter)) ()

/-- Text takes the keyboard and the pointer, and ends automation. -/
def yieldToText : M F Unit Unit := do
  let c ← read
  whenever c.textOwned do
    Traced.update withoutText
    whenever (c.grant.owner = .automation) do
      returnIf (¬ (← retire actuator enter .ui .none {} none)) ()
      returnIf (¬ (← continueInput actuator enter)) ()

/-- The first half of `Tick`, which ends with whether no stop is pending. -/
def admitInput (input : Input F) (clockRegressed discontinuity : Bool) : M F Unit Bool := do
  let c ← read
  whenever (¬ c.available ∨ ¬ input.exactForeground ∨ input.uiOwnsInput ∨ clockRegressed) do
    refuse actuator enter input clockRegressed
  Traced.update fun c => { c with foreground := true }
  returnIf (¬ (← continueInput actuator enter)) ()
  checkLease actuator enter discontinuity
  let cleanupReady ← retryStop actuator enter
  let c ← read
  returnIf (¬ cleanupReady ∧ c.grant.owner ≠ .automation) ()
  stopStalled actuator enter discontinuity
  yieldToText actuator enter
  return cleanupReady

/-- A control that cancels takes over. -/
def cancelMovement (input : Input F) (cleanupReady : Bool) : M F Unit Unit := do
  let c ← read
  whenever (c.controllerConnected ∧ c.controllerArmed ∧ input.cancels c.settings) do
    if cleanupReady then
      let _ ← retire actuator enter .takeover .manual {} none
      Traced.update disarmed
      throw ()
    else
      inhibit actuator enter .takeover
      throw ()

/-- The direction and the drag of an input are carried out. -/
def steer (input : Input F) (discontinuity cleanupReady lostController lostCapture : Bool)
    (direction : Vector2 F) : M F Unit Unit := do
  let c ← read
  let destination := ¬ direction.nonzero ∧ c.dragActive ∧ input.groundValid ∧ input.ground.finite
  let directional := direction.nonzero ∧ input.basis
  let intended := direction.nonzero ∨ c.dragActive
  if discontinuity ∧ c.grant.owner = .automation ∧ intended ∧ ¬ directional ∧ ¬ destination then
    inhibit actuator enter .takeover
  else if ¬ cleanupReady then
    whenever intended (inhibit actuator enter .takeover)
  else if directional ∨ destination then
    moveManually actuator enter fun grant start =>
      if directional then .direction grant (input.worldDirection direction) start
      else .destination grant input.ground start
  else if c.grant.owner = .manual ∧ c.moving then
    let _ ← stopActive actuator enter
      (if lostController then .deviceLost else if lostCapture then .captureLost else .release)
  else pure ()

/-- The second half of `Tick`. -/
def useInput (input : Input F) (discontinuity cleanupReady : Bool) (seconds : F) :
    M F Unit Unit := do
  let c ← read
  whenever (!c.settings.enabled) do
    Traced.update disarmed
    throw ()
  let lostController := c.controllerConnected && !input.connected c.settings
  Traced.update (armed input)
  let c ← read
  let keys := if c.settings.keyboard && c.keyboardArmed then input.keyDirection c.settings else 0
  cancelMovement actuator enter input cleanupReady
  whenever (cleanupReady ∧ c.controllerConnected ∧ c.controllerArmed ∧ ¬ input.cameraBlocked ∧
      ¬ c.cameraFaulted ∧ 0 < seconds ∧ (input.camera c.settings).nonzero) do
    moveCamera actuator enter input seconds
  let c ← read
  let direction := if !keys.nonzero && c.controllerConnected && c.controllerArmed then
      input.stick c.settings
    else keys
  let lostCapture := (dragged input cleanupReady c).2
  Traced.update fun c => (dragged input cleanupReady c).1
  steer actuator enter input discontinuity cleanupReady lostController lostCapture direction

/-- `Tick`. -/
def tick (input : Input F) : M F Unit Unit := do
  let c ← read
  returnIf c.actuating ()
  retryIfShutdown actuator enter
  shutdownIfPending actuator enter ()
  observeScene actuator enter input.scene
  shutdownIfPending actuator enter ()
  let c ← read
  let clockRegressed := c.hasTick && decide (input.tickMs < c.lastTick)
  let discontinuity := c.hasTick && (clockRegressed || decide (250 < input.tickMs - c.lastTick))
  let seconds := if !c.hasTick || discontinuity then 0.0
    else ((input.tickMs - c.lastTick).toNat : F) / 1000.0
  Traced.update (sampled input)
  let cleanupReady ← admitInput actuator enter input clockRegressed discontinuity
  useInput actuator enter input discontinuity cleanupReady seconds

/-! ### Calls -/

/-- A public call. -/
def call : Call F → Run F → Run F
  | .configure settings => finalState (configure actuator enter settings)
  | .tick input => finalState (tick actuator enter input)
  | .observeScene scene => finalState (observeScene actuator enter scene : M F Unit Unit)
  | .observeParentScene scene manualAdmitted tickMs => finalState (observeParentScene actuator enter scene manualAdmitted tickMs)
  | .acquireAutomation expected token coordinateOnly => finalState (acquireAutomation actuator enter expected token coordinateOnly)
  | .observeCoordinateParentScene scene admitted tickMs => finalState (observeCoordinateParentScene actuator enter scene admitted tickMs)
  | .automationDestination grant point => finalState (automationDestination actuator enter grant point)
  | .beginAutomationNativeAction grant => finalState (beginAutomationNativeAction actuator enter grant)
  | .pauseAutomation grant => finalState (pauseAutomation actuator enter grant)
  | .stop grant reason => finalState (stop actuator enter grant reason)
  | .emergencyStop grant reason => finalState (emergencyStop actuator enter grant reason)
  | .shutdown => finalState (shutdown actuator enter : M F Unit Unit)

/-- A public call that is written down. -/
def enterCall (s : Run F) (c : Call F) : Run F :=
  call actuator enter c { s with trace := s.trace ++ [⟨s.state.grant, .called c⟩] }

end Code

/-- Public calls one after the other; calls within calls go at most `depth` levels down. -/
def calls (actuator : Actuator F) : ℕ → List (Call F) → Run F → Run F
  | 0, _, s => s
  | depth + 1, cs, s => cs.foldl (enterCall actuator (calls actuator depth)) s

end Controls

end ShadowbaneLab.Native.Movement
