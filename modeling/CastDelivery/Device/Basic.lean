import CastDelivery.Basic
import Mathlib.Data.Finset.Erase
import Mathlib.Data.Finset.Insert
import Mathlib.Logic.Function.Basic

/-!
# Cast devices

`CastDevice` of `media_player.py` with its two kinds, the entity `CastMediaPlayerEntity` and the
`DynamicCastGroup`, and the `CastStatusListener` of `helpers.py`. A device connects in a background
task and is torn down by coroutines. Both await an executor job, and anything may run meanwhile, so
a step of `CastDevices.step` is what one of them does up to its next `await`.
-/

namespace CastDelivery

/-- `ChromecastInfo`, once `fill_out_missing_chromecast_info` has completed it. It asks for dynamic
groups only if the record came as that of an audio group; that what `get_cast_type` answers then
leaves it an audio group is assumed. -/
structure FoundCast where
  uuid : UUID
  isAudioGroup : Bool
  isDynamicGroup : Bool
  grouped : isDynamicGroup = true → isAudioGroup = true

/-- `CastDevice`, with its chromecast and its status listener. -/
structure CastDevice where
  uuid : UUID := ⟨0⟩
  /-- `_mz_only`: the device is a `DynamicCastGroup`. -/
  mzOnly : Bool := false
  /-- `_cast_info.is_audio_group`. -/
  isAudioGroup : Bool := false
  /-- `_async_setup` has run. -/
  isSetUp : Bool := false
  /-- `_add_remove_handler` and `_del_remove_handler` are connected. -/
  handlers : Bool := false
  /-- `_async_connect_to_chromecast` awaits its executor job. -/
  connecting : Bool := false
  /-- `_chromecast is not None`. -/
  chromecast : Bool := false
  /-- A chromecast was started, and not disconnected. -/
  running : Bool := false
  /-- `_status_listener is not None`. -/
  statusListener : Bool := false
  /-- `_valid` of the status listener. -/
  valid : Bool := false
  /-- The status listener is registered with the multizone manager. -/
  registered : Bool := false
  /-- `mz_mgr`, by the number of its set-up. -/
  manager : ℕ := 0
  /-- `async_remove` of the entity was called. -/
  removing : Bool := false
  /-- The unload waits for the entity's removal. -/
  leaving : Bool := false
  /-- The tear-downs that await `disconnect`. -/
  disconnecting : ℕ := 0
  /-- The tear-downs whose `disconnect` has returned. -/
  resuming : ℕ := 0
  /-- A tear-down has returned. -/
  tornDown : Bool := false
  /-- A tear-down has raised. -/
  raised : Bool := false
deriving DecidableEq

/-- Whether the config entry is loaded. -/
inductive LoadState
  | notLoaded
  | loaded
  | unloading
deriving DecidableEq, Repr

/-- The config entry with its devices, in the order of their creation. -/
structure CastDevices where
  count : ℕ := 0
  device : ℕ → CastDevice := fun _ => {}
  /-- `runtime_data.added_cast_devices`, if the entry has `runtime_data`. -/
  added : Option (Finset UUID) := none
  /-- The groups that the multizone manager of a set-up manages, each by the chromecast of a
  device. -/
  multizone : ℕ → UUID → Option ℕ := fun _ _ => none
  /-- The number of set-ups so far. -/
  setUps : ℕ := 0
  /-- The devices of earlier set-ups. -/
  base : ℕ := 0
  state : LoadState := .notLoaded

inductive CastEvent
  | setUp
  /-- The discovery signal of a device that `wanted_uuids` lets pass. -/
  | discovered (info : FoundCast)
  /-- `async_added_to_hass` of an entity. -/
  | addedToHass (device : ℕ)
  /-- The discovery signal of the device itself. -/
  | rediscovered (device : ℕ) (isAudioGroup : Bool)
  /-- `get_chromecast_from_cast_info` returns, or raises. -/
  | connectReturns (device : ℕ) (returns : Bool)
  /-- The removal signal of a dynamic group without services. -/
  | castRemoved (device : ℕ)
  /-- `async_remove` of an entity. -/
  | removed (device : ℕ)
  /-- `disconnect` returns. The socket client may report before that the connection is lost. -/
  | disconnectReturns (device : ℕ) (reports : Bool)
  /-- A tear-down goes on. -/
  | tearDownResumes (device : ℕ)
  | unload
  /-- The unload returns, and the entry may lose its `runtime_data`. -/
  | unloaded (deletesData : Bool)

namespace CastDevices

/-- Change one device. -/
def modify (S : CastDevices) (k : ℕ) (f : CastDevice → CastDevice) : CastDevices :=
  { S with device := Function.update S.device k (f (S.device k)) }

/-- `mz_mgr.add_multizone` and `mz_mgr.remove_multizone`. -/
def setMultizone (S : CastDevices) (manager : ℕ) (uuid : UUID) (k : Option ℕ) : CastDevices :=
  { S with multizone :=
      Function.update S.multizone manager (Function.update (S.multizone manager) uuid k) }

/-! ## Connecting -/

/-- `_async_setup`. -/
def asyncSetup (S : CastDevices) (k : ℕ) : CastDevices :=
  S.modify k fun d => { d with isSetUp := true, handlers := true, connecting := true }

/-- `_async_create_cast_device`. -/
def asyncCreateCastDevice (S : CastDevices) (info : FoundCast) : CastDevices :=
  match S.added with
  -- without `runtime_data` the handler raises `AttributeError`
  | none => S
  | some added =>
    if info.uuid ∈ added then S
    else
      let created := { S.modify S.count fun _ =>
          { uuid := info.uuid, mzOnly := info.isDynamicGroup,
            isAudioGroup := info.isAudioGroup } with
        count := S.count + 1
        added := some (insert info.uuid added) }
      if info.isDynamicGroup then created.asyncSetup S.count else created

/-- `CastStatusListener`, the new status listener of a device. -/
def castStatusListener (S : CastDevices) (k : ℕ) : CastDevices :=
  let d := S.device k
  let S := S.modify k fun d =>
    { d with
      statusListener := true
      valid := true
      manager := S.setUps
      registered := !d.mzOnly && !d.isAudioGroup }
  if d.isAudioGroup then S.setMultizone S.setUps d.uuid (some k) else S

/-- The rest of `_async_connect_to_chromecast`. -/
def connect (S : CastDevices) (k : ℕ) : CastDevices :=
  let S := S.modify k fun d => { d with connecting := false, chromecast := true }
  match S.added with
  -- without `runtime_data` it raises `AttributeError`
  | none => S
  | some _ => (S.castStatusListener k).modify k fun d => { d with running := true }

/-! ## Tearing down -/

/-- `_invalidate` with `CastStatusListener.invalidate`, and whether it raised. -/
def invalidate (S : CastDevices) (k : ℕ) : CastDevices × Bool :=
  let d := S.device k
  let S := S.modify k fun d => { d with chromecast := false }
  if d.statusListener = false then (S, false)
  else if d.isAudioGroup then
    ((S.setMultizone d.manager d.uuid none).modify k fun d =>
      { d with statusListener := false, valid := false }, false)
  else if d.registered then
    (S.modify k fun d => { d with statusListener := false, valid := false, registered := false },
      false)
  -- `deregister_listener` raises if the listener is not registered
  else (S, true)

/-- `_async_tear_down` after `disconnect`. -/
def finishTearDown (S : CastDevices) (k : ℕ) : CastDevices :=
  let r := S.invalidate k
  let raises := r.1.modify k fun d => { d with raised := true }
  if r.2 then raises
  else
    match r.1.added with
    | none => raises
    | some added =>
      -- `set.remove` raises `KeyError`
      if (S.device k).uuid ∉ added then raises
      else
        { r.1.modify k fun d => { d with handlers := false, tornDown := true } with
          added := some (added.erase (S.device k).uuid) }

/-- `_async_tear_down`, up to its `await`. -/
def asyncTearDown (S : CastDevices) (k : ℕ) : CastDevices :=
  if (S.device k).chromecast then
    S.modify k fun d => { d with disconnecting := d.disconnecting + 1 }
  else S.finishTearDown k

/-- `chromecast.disconnect` returns. If the socket client reports `DISCONNECTED` to an entity,
`new_connection_status` calls `_invalidate`. -/
def disconnect (S : CastDevices) (k : ℕ) (reports : Bool) : CastDevices :=
  let d := S.device k
  let S := S.modify k fun d =>
    { d with
      running := false
      disconnecting := d.disconnecting - 1
      resuming := d.resuming + 1 }
  if reports && d.valid && !d.mzOnly then (S.invalidate k).1 else S

/-! ## One event -/

/-- `async_setup_entry` of the integration and of the platform. -/
def asyncSetupEntry (S : CastDevices) : CastDevices :=
  match S.state with
  | .notLoaded =>
    { S with added := some ∅, setUps := S.setUps + 1, base := S.count, state := .loaded }
  | _ => S

/-- `async_unload_platforms` calls `async_remove` of every entity and waits for it. -/
def asyncUnloadPlatforms (S : CastDevices) : CastDevices :=
  match S.state with
  | .loaded =>
    { S with
      state := .unloading
      device := fun k =>
        let d := S.device k
        { d with leaving := !d.mzOnly && d.isSetUp && !d.tornDown } }
  | _ => S

/-- No entity is left that the unload waits for. -/
def EndsUnload (S : CastDevices) : Prop :=
  S.state = .unloading ∧
    ∀ k < S.count, (S.device k).leaving = true → (S.device k).tornDown = true

instance (S : CastDevices) : Decidable S.EndsUnload :=
  inferInstanceAs (Decidable (S.state = .unloading ∧
    ∀ k < S.count, (S.device k).leaving = true → (S.device k).tornDown = true))

/-- The end of the unload. -/
def finishUnload (S : CastDevices) (deletesData : Bool) : CastDevices :=
  if S.EndsUnload then
    { S with state := .notLoaded, added := if deletesData then none else S.added }
  else S

/-- One event. An event of a device that is not in the state for it does nothing. -/
def stepState (S : CastDevices) : CastEvent → CastDevices
  | .setUp => S.asyncSetupEntry
  | .discovered info => S.asyncCreateCastDevice info
  | .addedToHass k =>
    if k < S.count ∧ (S.device k).isSetUp = false then S.asyncSetup k else S
  | .rediscovered k isAudioGroup =>
    if (S.device k).handlers then S.modify k fun d => { d with isAudioGroup := isAudioGroup } else S
  | .connectReturns k returns =>
    if (S.device k).connecting = false then S
    else if returns then S.connect k
    else S.modify k fun d => { d with connecting := false }
  | .castRemoved k =>
    if (S.device k).mzOnly ∧ (S.device k).handlers then S.asyncTearDown k else S
  | .removed k =>
    if (S.device k).mzOnly = false ∧ (S.device k).isSetUp ∧ (S.device k).removing = false then
      (S.modify k fun d => { d with removing := true }).asyncTearDown k
    else S
  | .disconnectReturns k reports =>
    if (S.device k).disconnecting = 0 then S else S.disconnect k reports
  | .tearDownResumes k =>
    if (S.device k).resuming = 0 then S
    else (S.modify k fun d => { d with resuming := d.resuming - 1 }).finishTearDown k
  | .unload => S.asyncUnloadPlatforms
  | .unloaded deletesData => S.finishUnload deletesData

/-- One event, as a step without outputs. -/
def step (S : CastDevices) (event : CastEvent) : CastDevices × List Empty :=
  (S.stepState event, [])

/-! ## Reading the devices after a change to one of them -/

section Modify

variable (S : CastDevices) (k : ℕ) (f : CastDevice → CastDevice)

@[simp] theorem device_modify_self : (S.modify k f).device k = f (S.device k) :=
  Function.update_self _ _ _

theorem device_modify_of_ne {j : ℕ} (hne : j ≠ k) : (S.modify k f).device j = S.device j :=
  Function.update_of_ne hne _ _

@[simp] theorem modify_modify (g : CastDevice → CastDevice) :
    (S.modify k f).modify k g = S.modify k (g ∘ f) := by
  unfold modify
  simp

end Modify

theorem multizone_setMultizone (S : CastDevices) (manager m : ℕ) (uuid u : UUID) (k : Option ℕ) :
    (S.setMultizone manager uuid k).multizone m u
      = if m = manager ∧ u = uuid then k else S.multizone m u := by
  unfold setMultizone
  by_cases hm : m = manager
  · subst hm
    simp only [Function.update_self, Function.update_apply, true_and]
  · rw [if_neg fun h => hm h.1]
    simp only [Function.update_of_ne hm]

end CastDevices
end CastDelivery
