import CastDelivery.Device.Basic
import CastDelivery.Lib.Machine

/-!
# Tear-down is complete

`tears_down`: a device that was torn down holds no connection, no valid status listener and no
place in `added_cast_devices`, no tear-down raises, and an unload leaves no device behind, in every
run whose steps are `Orderly`.

`not_tearsDown` shows that the source needs this. A connect that returns after the tear-down starts
a chromecast that nobody disconnects, a second removal signal during the `disconnect` removes the
uuid twice, and an unload does not tear the dynamic groups down.
-/

namespace CastDelivery
namespace CastDevices

/-! ## What a tear-down leaves -/

/-- Nothing is left of a device. -/
structure Clean (S : CastDevices) (k : ℕ) : Prop where
  disconnected : (S.device k).running = false
  invalid : (S.device k).valid = false
  unregistered : (S.device k).registered = false ∧ ∀ m u, S.multizone m u ≠ some k
  forgotten : ∀ added, S.added = some added → (S.device k).uuid ∈ added →
    ∃ j, k < j ∧ j < S.count ∧ (S.device j).uuid = (S.device k).uuid

/-- A tear-down of the device has returned, and no task of the device is left. -/
def Over (d : CastDevice) : Prop :=
  d.tornDown = true ∧ d.connecting = false ∧ d.disconnecting = 0 ∧ d.resuming = 0

/-- The entry was unloaded after the device was created. -/
def HasUnloaded (S : CastDevices) (k : ℕ) : Prop :=
  k < S.count ∧ (S.state = .notLoaded ∨ k < S.base)

/-- After one step, tear-down is complete. -/
structure TearsDown (S : CastDevices) (event : CastEvent) : Prop where
  clean : ∀ k < (S.stepState event).count, Over ((S.stepState event).device k) →
    Clean (S.stepState event) k
  raised : ∀ k, ((S.stepState event).device k).raised = false
  unloaded : ∀ k, HasUnloaded (S.stepState event) k → Clean (S.stepState event) k

/-- The steps that keep connect and tear-down apart: no connect succeeds after a tear-down, no
removal signal comes while a tear-down awaits the disconnect, a re-discovery does not change what
the status listener was registered for, no device is created while the entry is not loaded, and an
unload finds no device but those it removes and those that were torn down. -/
def Orderly (S : CastDevices) : CastEvent → Prop
  | .discovered info => ∀ added ∈ S.added, info.uuid ∉ added → S.state ≠ .notLoaded
  | .rediscovered k isAudioGroup =>
    (S.device k).statusListener = true ∨ (S.device k).mzOnly = true →
      isAudioGroup = (S.device k).isAudioGroup
  | .connectReturns k returns =>
    returns = true → (S.device k).connecting = true → (S.device k).tornDown = false
  | .castRemoved k => (S.device k).handlers = true →
      (S.device k).disconnecting = 0 ∧ (S.device k).resuming = 0
  | .unloaded _ => S.EndsUnload →
      ∀ k < S.count, (S.device k).leaving = true ∨ (S.device k).tornDown = true
  | _ => True

instance (S : CastDevices) : DecidablePred S.Orderly
  | .discovered info => inferInstanceAs (Decidable (
      ∀ added ∈ S.added, info.uuid ∉ added → S.state ≠ .notLoaded))
  | .rediscovered k isAudioGroup => inferInstanceAs (Decidable (
      (S.device k).statusListener = true ∨ (S.device k).mzOnly = true →
        isAudioGroup = (S.device k).isAudioGroup))
  | .connectReturns k returns => inferInstanceAs (Decidable (
      returns = true → (S.device k).connecting = true → (S.device k).tornDown = false))
  | .castRemoved k => inferInstanceAs (Decidable ((S.device k).handlers = true →
      (S.device k).disconnecting = 0 ∧ (S.device k).resuming = 0))
  | .unloaded _ => inferInstanceAs (Decidable (
      S.EndsUnload →
        ∀ k < S.count, (S.device k).leaving = true ∨ (S.device k).tornDown = true))
  | .setUp | .addedToHass _ | .removed _ | .disconnectReturns _ _ | .tearDownResumes _
  | .unload => inferInstanceAs (Decidable True)

/-! ## The life of a device -/

/-- The device has no chromecast and no status listener. -/
structure Bare (d : CastDevice) : Prop where
  chromecast : d.chromecast = false
  running : d.running = false
  statusListener : d.statusListener = false
  valid : d.valid = false
  registered : d.registered = false

/-- The device has a chromecast and a status listener that is registered. -/
structure Connected (d : CastDevice) : Prop where
  chromecast : d.chromecast = true
  statusListener : d.statusListener = true
  valid : d.valid = true
  registered : d.registered = !d.isAudioGroup
  connecting : d.connecting = false

/-- What a device holds. -/
def parts (d : CastDevice) : Bool × Bool × Bool × Bool × Bool :=
  (d.chromecast, d.running, d.statusListener, d.valid, d.registered)

/-- How far a device is on the way from its creation to its tear-down. -/
inductive Life (d : CastDevice) : Prop
  | created (h : Bare d) (hconnect : d.connecting = false) (hset : d.isSetUp = false)
      (hwaits : d.disconnecting = 0 ∧ d.resuming = 0) (hup : d.tornDown = false)
  | bare (h : Bare d) (hset : d.isSetUp = true) (hwaits : d.disconnecting = 0 ∧ d.resuming = 0)
      (hup : d.tornDown = false)
  | connected (h : Connected d) (hset : d.isSetUp = true)
      (hwaits : d.disconnecting = 0 ∧ d.resuming = 0) (hup : d.tornDown = false)
  | disconnecting (h : Connected d) (hset : d.isSetUp = true)
      (hwaits : d.disconnecting = 1 ∧ d.resuming = 0) (hup : d.tornDown = false)
      (hremoving : d.mzOnly = false → d.removing = true)
  | resuming (h : Connected d ∨ Bare d) (hrunning : d.running = false)
      (hconnect : d.connecting = false) (hset : d.isSetUp = true)
      (hwaits : d.disconnecting = 0 ∧ d.resuming = 1) (hup : d.tornDown = false)
      (hremoving : d.mzOnly = false → d.removing = true)
  | tornDown (h : Bare d) (hset : d.isSetUp = true)
      (hwaits : d.disconnecting = 0 ∧ d.resuming = 0) (hdown : d.tornDown = true)
      (hhandlers : d.handlers = false) (hremoving : d.mzOnly = false → d.removing = true)

/-- A device whose tear-downs have not raised. -/
structure Sound (d : CastDevice) : Prop where
  life : Life d
  group : d.mzOnly = true → d.isAudioGroup = true ∧ d.isSetUp = true
  raised : d.raised = false

variable {S : CastDevices} {k : ℕ} {d d' : CastDevice}

theorem Bare.of_parts (h : Bare d) (hparts : parts d' = parts d) : Bare d' := by
  simp only [parts, Prod.mk.injEq] at hparts
  obtain ⟨hchromecast, hrunning, hlistener, hvalid, hregistered⟩ := hparts
  exact ⟨hchromecast.trans h.chromecast, hrunning.trans h.running,
    hlistener.trans h.statusListener, hvalid.trans h.valid, hregistered.trans h.registered⟩

theorem Connected.of_parts (h : Connected d) (hparts : parts d' = parts d)
    (hgroup : d'.isAudioGroup = d.isAudioGroup) (hconnect : d'.connecting = d.connecting) :
    Connected d' := by
  simp only [parts, Prod.mk.injEq] at hparts
  obtain ⟨hchromecast, -, hlistener, hvalid, hregistered⟩ := hparts
  refine ⟨hchromecast.trans h.chromecast, hlistener.trans h.statusListener, hvalid.trans h.valid,
    ?_, hconnect.trans h.connecting⟩
  rw [hregistered, hgroup]
  exact h.registered

/-- A change that keeps how far a device is. -/
structure SameLife (d d' : CastDevice) : Prop where
  bare : Bare d → Bare d'
  connected : Connected d → Connected d'
  running : d'.running = d.running
  connecting : d'.connecting = d.connecting
  isSetUp : d'.isSetUp = d.isSetUp
  disconnecting : d'.disconnecting = d.disconnecting
  resuming : d'.resuming = d.resuming
  tornDown : d'.tornDown = d.tornDown
  handlers : d'.handlers = d.handlers
  mzOnly : d'.mzOnly = d.mzOnly
  removing : d'.removing = d.removing

theorem Life.of_same (h : Life d) (hsame : SameLife d d') : Life d' := by
  have hwaits' : ∀ m n, d.disconnecting = m ∧ d.resuming = n →
      d'.disconnecting = m ∧ d'.resuming = n := by
    rw [hsame.disconnecting, hsame.resuming]
    exact fun _ _ hwaits => hwaits
  have hremoving' : (d.mzOnly = false → d.removing = true) →
      d'.mzOnly = false → d'.removing = true := by
    rw [hsame.mzOnly, hsame.removing]
    exact id
  cases h with
  | created h hconnect hset hwaits hup =>
    exact .created (hsame.bare h) (hsame.connecting.trans hconnect) (hsame.isSetUp.trans hset)
      (hwaits' _ _ hwaits) (hsame.tornDown.trans hup)
  | bare h hset hwaits hup =>
    exact .bare (hsame.bare h) (hsame.isSetUp.trans hset) (hwaits' _ _ hwaits)
      (hsame.tornDown.trans hup)
  | connected h hset hwaits hup =>
    exact .connected (hsame.connected h) (hsame.isSetUp.trans hset) (hwaits' _ _ hwaits)
      (hsame.tornDown.trans hup)
  | disconnecting h hset hwaits hup hremoving =>
    exact .disconnecting (hsame.connected h) (hsame.isSetUp.trans hset) (hwaits' _ _ hwaits)
      (hsame.tornDown.trans hup) (hremoving' hremoving)
  | resuming h hrunning hconnect hset hwaits hup hremoving =>
    exact .resuming (h.imp hsame.connected hsame.bare) (hsame.running.trans hrunning)
      (hsame.connecting.trans hconnect) (hsame.isSetUp.trans hset) (hwaits' _ _ hwaits)
      (hsame.tornDown.trans hup) (hremoving' hremoving)
  | tornDown h hset hwaits hdown hhandlers hremoving =>
    exact .tornDown (hsame.bare h) (hsame.isSetUp.trans hset) (hwaits' _ _ hwaits)
      (hsame.tornDown.trans hdown) (hsame.handlers.trans hhandlers) (hremoving' hremoving)

theorem Life.bare_of_tornDown (h : Life d) (hdown : d.tornDown = true) : Bare d := by
  cases h with
  | tornDown h => exact h
  | _ => simp_all

/-! ## What the devices share -/

/-- `added_cast_devices` has the uuids of the devices that are not torn down, each of one device,
and the multizone managers have the groups of the status listeners. -/
structure Consistent (S : CastDevices) : Prop where
  fresh : ∀ k, S.count ≤ k → S.device k = {}
  claimed : ∀ k < S.count, (S.device k).tornDown = false →
    ∃ added, S.added = some added ∧ (S.device k).uuid ∈ added
  owned : ∀ added, S.added = some added → ∀ u ∈ added,
    ∃ k < S.count, (S.device k).tornDown = false ∧ (S.device k).uuid = u
  older : ∀ j k, j < k → k < S.count → (S.device j).uuid = (S.device k).uuid →
    (S.device j).tornDown = true
  managed : ∀ m u k, S.multizone m u = some k → (S.device k).statusListener = true ∧
    (S.device k).isAudioGroup = true ∧ (S.device k).manager = m ∧ (S.device k).uuid = u
  ended : ∀ k, HasUnloaded S k → (S.device k).tornDown = true
  base : S.base ≤ S.count

/-- The invariant of orderly runs. -/
structure Tidy (S : CastDevices) : Prop extends Consistent S where
  sound : ∀ k < S.count, Sound (S.device k)

/-- **Nothing is left of a device that was torn down.** -/
theorem Tidy.clean (h : Tidy S) (hk : k < S.count) (hdown : (S.device k).tornDown = true) :
    Clean S k := by
  have hbare := (h.sound k hk).life.bare_of_tornDown hdown
  refine ⟨hbare.running, hbare.valid, ⟨hbare.registered, fun m u hmanaged => ?_⟩,
    fun added hadded hmem => ?_⟩
  · have hlistener := (h.managed m u k hmanaged).1
    rw [hbare.statusListener] at hlistener
    cases hlistener
  · obtain ⟨j, hj, hup, huuid⟩ := h.owned added hadded _ hmem
    refine ⟨j, ?_, hj, huuid⟩
    by_contra hle
    rcases Nat.lt_or_eq_of_le (Nat.le_of_not_lt hle) with hlt | rfl
    · have hold := h.older j k hlt hk huuid
      rw [hup] at hold
      cases hold
    · rw [hup] at hdown
      cases hdown

/-- Two states of the entry whose devices are the same as far as `added_cast_devices` goes. -/
structure SameDevices (S S' : CastDevices) : Prop where
  count : S'.count = S.count
  added : S'.added = S.added
  base : S'.base = S.base
  state : S'.state = .notLoaded → S.state = .notLoaded
  fresh : ∀ j, S.count ≤ j → S.device j = {} → S'.device j = {}
  read : ∀ j, (S'.device j).uuid = (S.device j).uuid ∧
    (S'.device j).tornDown = (S.device j).tornDown

theorem Consistent.of_same {S' : CastDevices} (h : Consistent S) (hsame : SameDevices S S')
    (hmanaged : ∀ m u j, S'.multizone m u = some j → (S'.device j).statusListener = true ∧
      (S'.device j).isAudioGroup = true ∧ (S'.device j).manager = m ∧ (S'.device j).uuid = u) :
    Consistent S' := by
  refine ⟨fun j hj => ?_, fun j hj hup => ?_, fun added hadded u hu => ?_,
    fun i j hij hj huuid => ?_, hmanaged, fun j hj => ?_, ?_⟩
  · rw [hsame.count] at hj
    exact hsame.fresh j hj (h.fresh j hj)
  · rw [hsame.count] at hj
    rw [(hsame.read j).2] at hup
    rw [hsame.added, (hsame.read j).1]
    exact h.claimed j hj hup
  · rw [hsame.added] at hadded
    obtain ⟨j, hj, hup, huuid⟩ := h.owned added hadded u hu
    exact ⟨j, hsame.count ▸ hj, (hsame.read j).2.trans hup, (hsame.read j).1.trans huuid⟩
  · rw [hsame.count] at hj
    rw [(hsame.read i).1, (hsame.read j).1] at huuid
    rw [(hsame.read i).2]
    exact h.older i j hij hj huuid
  · rw [(hsame.read j).2]
    obtain ⟨hlt, hover⟩ := hj
    rw [hsame.count] at hlt
    rw [hsame.base] at hover
    exact h.ended j ⟨hlt, hover.imp_left hsame.state⟩
  · rw [hsame.base, hsame.count]
    exact h.base

/-- A change to one device that keeps its uuid and whether it is torn down. -/
theorem sameDevices_modify (hk : k < S.count) {f : CastDevice → CastDevice}
    (hf : (f (S.device k)).uuid = (S.device k).uuid ∧
      (f (S.device k)).tornDown = (S.device k).tornDown) : SameDevices S (S.modify k f) := by
  refine ⟨rfl, rfl, rfl, id, fun j hj hfresh => ?_, fun j => ?_⟩
  · rw [device_modify_of_ne _ _ _ (by omega)]
    exact hfresh
  · by_cases hj : j = k
    · subst hj
      rw [device_modify_self]
      exact hf
    · rw [device_modify_of_ne _ _ _ hj]
      exact ⟨rfl, rfl⟩

/-- A change that keeps what the devices share. -/
structure Keeps (f : CastDevice → CastDevice) (d : CastDevice) : Prop where
  uuid : (f d).uuid = d.uuid
  tornDown : (f d).tornDown = d.tornDown
  listener : d.statusListener = true → (f d).statusListener = true ∧
    (f d).isAudioGroup = d.isAudioGroup ∧ (f d).manager = d.manager

theorem Consistent.modify (h : Consistent S) (hk : k < S.count) {f : CastDevice → CastDevice}
    (hf : Keeps f (S.device k)) : Consistent (S.modify k f) := by
  refine h.of_same (sameDevices_modify hk ⟨hf.uuid, hf.tornDown⟩) fun m u j hmanaged => ?_
  obtain ⟨hlistener, hgroup, hmanager, huuid⟩ := h.managed m u j hmanaged
  by_cases hj : j = k
  · subst hj
    obtain ⟨hlistener', hgroup', hmanager'⟩ := hf.listener hlistener
    rw [device_modify_self]
    exact ⟨hlistener', hgroup'.trans hgroup, hmanager'.trans hmanager, hf.uuid.trans huuid⟩
  · rw [device_modify_of_ne _ _ _ hj]
    exact ⟨hlistener, hgroup, hmanager, huuid⟩

/-! ## Invalidating and tearing down -/

/-- The device after `_invalidate`. -/
def invalidated (d : CastDevice) : CastDevice :=
  { d with chromecast := false, statusListener := false, valid := false, registered := false }

/-- What `_invalidate` does to a connected device. -/
structure Invalidates (S S' : CastDevices) (k : ℕ) : Prop where
  count : S'.count = S.count
  added : S'.added = S.added
  setUps : S'.setUps = S.setUps
  base : S'.base = S.base
  state : S'.state = S.state
  device : S'.device = Function.update S.device k (invalidated (S.device k))
  multizone : ∀ m u j, S'.multizone m u = some j → S.multizone m u = some j ∧ j ≠ k

theorem invalidated_of_bare (h : Bare d) : { d with chromecast := false } = invalidated d := by
  obtain ⟨-, -, hlistener, hvalid, hregistered⟩ := h
  simp only [invalidated, hlistener, hvalid, hregistered]

theorem invalidated_of_group (h : d.registered = false) :
    { d with chromecast := false, statusListener := false, valid := false } = invalidated d := by
  simp only [invalidated, h]

theorem invalidate_spec (h : Consistent S)
    (hd : Connected (S.device k) ∨ Bare (S.device k)) :
    (S.invalidate k).2 = false ∧ Invalidates S (S.invalidate k).1 k := by
  unfold invalidate
  rcases hd with hconnected | hbare
  · have hregistered := hconnected.registered
    cases hgroup : (S.device k).isAudioGroup with
    | true =>
      -- the manager forgets the group
      simp only [hconnected.statusListener, hgroup, Bool.true_eq_false, if_true, if_false]
      rw [hgroup] at hregistered
      refine ⟨trivial, rfl, rfl, rfl, rfl, rfl, ?_, fun m u j hmanaged => ?_⟩
      · rw [← invalidated_of_group hregistered]
        simp [modify, setMultizone]
      · have hread := multizone_setMultizone S (S.device k).manager m (S.device k).uuid u none
        rw [show (S.setMultizone (S.device k).manager (S.device k).uuid none).multizone m u
          = some j from hmanaged] at hread
        split at hread
        · cases hread
        · next hother =>
          refine ⟨hread.symm, ?_⟩
          rintro rfl
          obtain ⟨-, -, hmanager, huuid⟩ := h.managed m u j hread.symm
          exact hother ⟨hmanager.symm, huuid.symm⟩
    | false =>
      -- the manager forgets the listener
      rw [hgroup] at hregistered
      simp only [hconnected.statusListener, hgroup, hregistered, Bool.true_eq_false,
        Bool.false_eq_true, Bool.not_false, if_true, if_false]
      refine ⟨trivial, rfl, rfl, rfl, rfl, rfl, ?_, fun m u j hmanaged => ⟨hmanaged, ?_⟩⟩
      · rw [modify_modify]
        rfl
      · rintro rfl
        have htrue := (h.managed m u j hmanaged).2.1
        rw [hgroup] at htrue
        cases htrue
  · -- there is no status listener
    simp only [hbare.statusListener, if_true]
    refine ⟨trivial, rfl, rfl, rfl, rfl, rfl, ?_, fun m u j hmanaged => ⟨hmanaged, ?_⟩⟩
    · rw [← invalidated_of_bare hbare]
      rfl
    · rintro rfl
      have htrue := (h.managed m u j hmanaged).1
      rw [hbare.statusListener] at htrue
      cases htrue

theorem Invalidates.device_self {S' : CastDevices} (h : Invalidates S S' k) :
    S'.device k = invalidated (S.device k) := by
  rw [h.device]
  exact Function.update_self _ _ _

theorem Invalidates.device_of_ne {S' : CastDevices} (h : Invalidates S S' k) {j : ℕ}
    (hne : j ≠ k) : S'.device j = S.device j := by
  rw [h.device]
  exact Function.update_of_ne hne _ _

theorem Consistent.invalidate (h : Consistent S) (hk : k < S.count)
    (hd : Connected (S.device k) ∨ Bare (S.device k)) : Consistent (S.invalidate k).1 := by
  obtain ⟨-, hspec⟩ := invalidate_spec h hd
  refine h.of_same ⟨hspec.count, hspec.added, hspec.base, fun hs => hspec.state ▸ hs,
    fun j hj hfresh => ?_, fun j => ?_⟩ fun m u j hmanaged => ?_
  · rw [hspec.device_of_ne (by omega)]
    exact hfresh
  · by_cases hj : j = k
    · subst hj
      rw [hspec.device_self]
      exact ⟨rfl, rfl⟩
    · rw [hspec.device_of_ne hj]
      exact ⟨rfl, rfl⟩
  · obtain ⟨hold, hne⟩ := hspec.multizone m u j hmanaged
    rw [hspec.device_of_ne hne]
    exact h.managed m u j hold

/-- The device after its tear-down. -/
def retired (d : CastDevice) : CastDevice :=
  { invalidated d with handlers := false, tornDown := true }

/-- What a tear-down does to a device: it takes the uuid out of `added_cast_devices`, and it does
not raise. -/
structure Retires (S S' : CastDevices) (k : ℕ) (added : Finset UUID) : Prop where
  count : S'.count = S.count
  base : S'.base = S.base
  state : S'.state = S.state
  before : S.added = some added
  added : S'.added = some (added.erase (S.device k).uuid)
  device : S'.device = Function.update S.device k (retired (S.device k))
  multizone : ∀ m u j, S'.multizone m u = some j → S.multizone m u = some j ∧ j ≠ k

theorem finishTearDown_spec (h : Consistent S) (hk : k < S.count)
    (hd : Connected (S.device k) ∨ Bare (S.device k)) (hup : (S.device k).tornDown = false) :
    ∃ added, Retires S (S.finishTearDown k) k added := by
  obtain ⟨hraises, hspec⟩ := invalidate_spec h hd
  obtain ⟨added, hadded, hmem⟩ := h.claimed k hk hup
  have heq : S.finishTearDown k =
      { (S.invalidate k).1.modify k fun d => { d with handlers := false, tornDown := true } with
        added := some (added.erase (S.device k).uuid) } := by
    unfold finishTearDown
    simp only [hraises, hspec.added, hadded, Bool.false_eq_true, if_false, not_true, hmem]
  rw [heq]
  refine ⟨added, hspec.count, hspec.base, hspec.state, hadded, rfl, ?_, hspec.multizone⟩
  simp only [CastDevices.modify, hspec.device_self, hspec.device, Function.update_idem]
  rfl

section Retires

variable {S' : CastDevices} {added : Finset UUID}

theorem Retires.device_self (h : Retires S S' k added) : S'.device k = retired (S.device k) := by
  rw [h.device]
  exact Function.update_self _ _ _

theorem Retires.device_of_ne (h : Retires S S' k added) {j : ℕ} (hne : j ≠ k) :
    S'.device j = S.device j := by
  rw [h.device]
  exact Function.update_of_ne hne _ _

theorem Retires.uuid (h : Retires S S' k added) (j : ℕ) :
    (S'.device j).uuid = (S.device j).uuid := by
  by_cases hj : j = k
  · subst hj
    rw [h.device_self]
    rfl
  · rw [h.device_of_ne hj]

/-- No device comes back from its tear-down. -/
theorem Retires.tornDown (h : Retires S S' k added) {j : ℕ}
    (hdown : (S.device j).tornDown = true) : (S'.device j).tornDown = true := by
  by_cases hj : j = k
  · subst hj
    rw [h.device_self]
    rfl
  · rw [h.device_of_ne hj]
    exact hdown

/-- The uuid of a device is that of no other device that is not torn down. -/
theorem Consistent.uuid_ne (h : Consistent S) (hk : k < S.count)
    (hup : (S.device k).tornDown = false) {j : ℕ} (hj : j < S.count) (hne : j ≠ k)
    (hupj : (S.device j).tornDown = false) : (S.device j).uuid ≠ (S.device k).uuid := by
  intro huuid
  rcases Nat.lt_or_gt_of_ne hne with hlt | hgt
  · rw [h.older j k hlt hk huuid] at hupj
    cases hupj
  · rw [h.older k j hgt hj huuid.symm] at hup
    cases hup

theorem Consistent.retire (h : Consistent S) (hk : k < S.count)
    (hup : (S.device k).tornDown = false) (hr : Retires S S' k added) : Consistent S' := by
  refine ⟨fun j hj => ?_, fun j hj hupj => ?_, fun added' hadded' u hu => ?_,
    fun i j hij hj huuid => ?_, fun m u j hmanaged => ?_, fun j hj => ?_, ?_⟩
  · rw [hr.count] at hj
    rw [hr.device_of_ne (by omega)]
    exact h.fresh j hj
  · have hne : j ≠ k := by
      rintro rfl
      rw [hr.device_self] at hupj
      cases hupj
    -- its uuid stays claimed, because it is not the uuid that is taken out
    rw [hr.count] at hj
    rw [hr.device_of_ne hne] at hupj ⊢
    obtain ⟨added', hadded', hmem'⟩ := h.claimed j hj hupj
    rw [hr.before] at hadded'
    obtain rfl := Option.some.inj hadded'
    exact ⟨_, hr.added, Finset.mem_erase.mpr ⟨h.uuid_ne hk hup hj hne hupj, hmem'⟩⟩
  · rw [hr.added] at hadded'
    obtain rfl := Option.some.inj hadded'
    obtain ⟨hne, hu⟩ := Finset.mem_erase.mp hu
    obtain ⟨j, hj, hupj, huuid⟩ := h.owned added hr.before u hu
    -- the owner of a uuid that stays is another device
    have hjk : j ≠ k := by
      rintro rfl
      exact hne huuid.symm
    refine ⟨j, hr.count ▸ hj, ?_⟩
    rw [hr.device_of_ne hjk]
    exact ⟨hupj, huuid⟩
  · rw [hr.count] at hj
    rw [hr.uuid, hr.uuid] at huuid
    exact hr.tornDown (h.older i j hij hj huuid)
  · obtain ⟨hold, hne⟩ := hr.multizone m u j hmanaged
    rw [hr.device_of_ne hne]
    exact h.managed m u j hold
  · obtain ⟨hlt, hover⟩ := hj
    rw [hr.count] at hlt
    rw [hr.state, hr.base] at hover
    exact hr.tornDown (h.ended j ⟨hlt, hover⟩)
  · rw [hr.base, hr.count]
    exact h.base

end Retires

/-! ## One step -/

theorem Tidy.update {S' : CastDevices} (h : Tidy S) (hS' : Consistent S')
    (hcount : S'.count = S.count) (hother : ∀ j, j ≠ k → S'.device j = S.device j)
    (hsound : Sound (S'.device k)) : Tidy S' := by
  refine ⟨hS', fun j hj => ?_⟩
  by_cases hjk : j = k
  · subst hjk
    exact hsound
  · rw [hother j hjk]
    exact h.sound j (hcount ▸ hj)

/-- A change to one device that keeps what the devices share. -/
theorem Tidy.modify (h : Tidy S) (hk : k < S.count) {f : CastDevice → CastDevice}
    (hf : Keeps f (S.device k)) (hsound : Sound (f (S.device k))) : Tidy (S.modify k f) := by
  refine h.update (h.toConsistent.modify hk hf) rfl (fun j hj => device_modify_of_ne _ _ _ hj) ?_
  rw [device_modify_self]
  exact hsound

theorem Tidy.lt_count (h : Tidy S) (hne : S.device k ≠ {}) : k < S.count := by
  by_contra hle
  exact hne (h.fresh k (Nat.le_of_not_lt hle))

theorem Tidy.addedToHass (h : Tidy S) (k : ℕ) : Tidy (S.stepState (.addedToHass k)) := by
  simp only [stepState]
  split
  · next hguard =>
    obtain ⟨hk, hnot⟩ := hguard
    obtain ⟨life, group, raised⟩ := h.sound k hk
    refine h.modify hk ⟨rfl, rfl, fun hlistener => ⟨hlistener, rfl, rfl⟩⟩ ⟨?_, ?_, raised⟩
    · cases life with
      | created hbare _ _ hwaits hup =>
        exact .bare (hbare.of_parts rfl) rfl hwaits hup
      | bare _ hset | connected _ hset | disconnecting _ hset | resuming _ _ _ hset
      | tornDown _ hset =>
        rw [hnot] at hset
        cases hset
    · exact fun hgroup => ⟨(group hgroup).1, rfl⟩
  · exact h

/-- A re-discovery of a device without a status listener. -/
theorem Life.isAudioGroup (h : Life d) (hlistener : d.statusListener = false)
    (isAudioGroup : Bool) : Life { d with isAudioGroup := isAudioGroup } := by
  refine h.of_same ⟨fun h => h.of_parts rfl, fun h => ?_, rfl, rfl, rfl, rfl, rfl, rfl, rfl, rfl,
    rfl⟩
  have hnot := h.statusListener
  rw [hlistener] at hnot
  cases hnot

theorem Tidy.rediscovered (h : Tidy S) (k : ℕ) (isAudioGroup : Bool)
    (ho : S.Orderly (.rediscovered k isAudioGroup)) :
    Tidy (S.stepState (.rediscovered k isAudioGroup)) := by
  simp only [stepState]
  split
  · next hhandlers =>
    have hk : k < S.count := h.lt_count fun hfresh => by
      rw [hfresh] at hhandlers
      cases hhandlers
    have hsound := h.sound k hk
    by_cases hsame : isAudioGroup = (S.device k).isAudioGroup
    · refine h.modify hk ⟨rfl, rfl, fun hlistener => ⟨hlistener, hsame, rfl⟩⟩ ?_
      simp only [hsame]
      exact hsound
    · -- the device changes its kind, so nothing was registered for the old one
      have hlistener : (S.device k).statusListener = false := by
        by_contra hlistener
        exact hsame (ho (.inl (by simpa using hlistener)))
      have hgroup : (S.device k).mzOnly = false := by
        by_contra hgroup
        exact hsame (ho (.inr (by simpa using hgroup)))
      refine h.modify hk ⟨rfl, rfl, fun htrue => ?_⟩
        ⟨hsound.life.isAudioGroup hlistener isAudioGroup, fun htrue => ?_, hsound.raised⟩
      · rw [hlistener] at htrue
        cases htrue
      · have hfalse : (S.device k).mzOnly = true := htrue
        rw [hgroup] at hfalse
        cases hfalse
  · exact h

/-- The device after it has connected, in the set-up `manager`. -/
def connectedTo (manager : ℕ) (d : CastDevice) : CastDevice :=
  { d with
    connecting := false
    chromecast := true
    statusListener := true
    valid := true
    manager := manager
    registered := !d.mzOnly && !d.isAudioGroup
    running := true }

theorem connect_spec {added : Finset UUID} (hadded : S.added = some added) :
    ∃ multizone, S.connect k =
        { S.modify k (connectedTo S.setUps) with multizone := multizone } ∧
      ∀ m u j, multizone m u = some j → S.multizone m u = some j ∨
        j = k ∧ (S.device k).isAudioGroup = true ∧ m = S.setUps ∧ u = (S.device k).uuid := by
  have hconnect : S.connect k = ((S.modify k fun d =>
      { d with connecting := false, chromecast := true }).castStatusListener k).modify k
        fun d => { d with running := true } := by
    unfold connect
    simp only [show (S.modify k fun d => { d with connecting := false, chromecast := true }).added
      = some added from hadded]
  rw [hconnect, castStatusListener]
  simp only [device_modify_self]
  split
  · next hgroup =>
    -- an audio group is added to the multizone manager of the set-up that is loaded
    refine ⟨(S.setMultizone S.setUps (S.device k).uuid (some k)).multizone, ?_,
      fun m u j hmanaged => ?_⟩
    · simp [CastDevices.modify, setMultizone, connectedTo]
    · rw [multizone_setMultizone] at hmanaged
      split at hmanaged
      · next hkey => exact .inr ⟨(Option.some.inj hmanaged).symm, hgroup, hkey.1, hkey.2⟩
      · exact .inl hmanaged
  · refine ⟨S.multizone, ?_, fun m u j hmanaged => .inl hmanaged⟩
    simp [CastDevices.modify, connectedTo]

/-- A device that connects holds nothing, and no tear-down of it is under way. -/
theorem Life.of_connecting (h : Life d) (hconnecting : d.connecting = true) :
    Bare d ∧ d.isSetUp = true ∧ d.disconnecting = 0 ∧ d.resuming = 0 := by
  cases h with
  | bare h hset hwaits => exact ⟨h, hset, hwaits⟩
  | tornDown h hset hwaits => exact ⟨h, hset, hwaits⟩
  | created _ hnot | resuming _ _ hnot =>
    rw [hconnecting] at hnot
    cases hnot
  | connected h | disconnecting h =>
    have hnot := h.connecting
    rw [hconnecting] at hnot
    cases hnot

theorem Consistent.connect (h : Consistent S) (hk : k < S.count)
    (hbare : Bare (S.device k)) {multizone : ℕ → UUID → Option ℕ}
    (hmultizone : ∀ m u j, multizone m u = some j → S.multizone m u = some j ∨
      j = k ∧ (S.device k).isAudioGroup = true ∧ m = S.setUps ∧ u = (S.device k).uuid) :
    Consistent { S.modify k (connectedTo S.setUps) with multizone := multizone } := by
  have hsame : SameDevices S (S.modify k (connectedTo S.setUps)) :=
    sameDevices_modify hk ⟨rfl, rfl⟩
  refine h.of_same ⟨rfl, rfl, rfl, id, hsame.fresh, hsame.read⟩ fun m u j hmanaged => ?_
  rcases hmultizone m u j hmanaged with hold | ⟨rfl, hgroup, rfl, rfl⟩
  · -- the device had no status listener, so this is another one's
    obtain ⟨hlistener, hrest⟩ := h.managed m u j hold
    have hj : j ≠ k := by
      rintro rfl
      rw [hbare.statusListener] at hlistener
      cases hlistener
    show ((S.modify k (connectedTo S.setUps)).device j).statusListener = true ∧ _
    rw [device_modify_of_ne _ _ _ hj]
    exact ⟨hlistener, hrest⟩
  · show ((S.modify j (connectedTo S.setUps)).device j).statusListener = true ∧ _
    rw [device_modify_self]
    exact ⟨rfl, hgroup, rfl, rfl⟩

theorem Sound.connectedTo (h : Sound d) (hset : d.isSetUp = true)
    (hwaits : d.disconnecting = 0 ∧ d.resuming = 0) (hup : d.tornDown = false) (manager : ℕ) :
    Sound (connectedTo manager d) := by
  refine ⟨.connected ⟨rfl, rfl, rfl, ?_, rfl⟩ hset hwaits hup, h.group, h.raised⟩
  show (!d.mzOnly && !d.isAudioGroup) = !d.isAudioGroup
  cases hmz : d.mzOnly with
  | false => rfl
  | true =>
    rw [(h.group hmz).1]
    rfl

theorem Tidy.connect (h : Tidy S) (hk : k < S.count) (hconnecting : (S.device k).connecting = true)
    (hup : (S.device k).tornDown = false) : Tidy (S.connect k) := by
  obtain ⟨added, hadded, -⟩ := h.claimed k hk hup
  obtain ⟨multizone, heq, hmultizone⟩ := connect_spec (k := k) hadded
  obtain ⟨hbare, hset, hwaits⟩ := (h.sound k hk).life.of_connecting hconnecting
  rw [heq]
  refine h.update (k := k) (h.toConsistent.connect hk hbare hmultizone) rfl
    (fun j hj => device_modify_of_ne _ _ _ hj) ?_
  show Sound ((S.modify k (CastDevices.connectedTo S.setUps)).device k)
  rw [device_modify_self]
  exact (h.sound k hk).connectedTo hset hwaits hup S.setUps

theorem Sound.connectFails (h : Sound d) (hconnecting : d.connecting = true) :
    Sound { d with connecting := false } := by
  refine ⟨?_, h.group, h.raised⟩
  obtain ⟨hbare, hset, hwaits⟩ := h.life.of_connecting hconnecting
  cases h.life with
  | tornDown _ _ _ hdown hhandlers hremoving =>
    exact .tornDown (hbare.of_parts rfl) hset hwaits hdown hhandlers hremoving
  | created _ _ _ _ hup | bare _ _ _ hup | connected _ _ _ hup | disconnecting _ _ _ hup
  | resuming _ _ _ _ _ hup => exact .bare (hbare.of_parts rfl) hset hwaits hup

theorem Tidy.connectReturns (h : Tidy S) (k : ℕ) (returns : Bool)
    (ho : S.Orderly (.connectReturns k returns)) :
    Tidy (S.stepState (.connectReturns k returns)) := by
  simp only [stepState]
  split
  · exact h
  · next hne =>
    have hconnecting : (S.device k).connecting = true := by simpa using hne
    have hk : k < S.count := h.lt_count fun hfresh => by
      rw [hfresh] at hconnecting
      cases hconnecting
    split
    · next hreturns =>
      -- no tear-down has begun
      exact h.connect hk hconnecting (ho hreturns hconnecting)
    · exact h.modify hk ⟨rfl, rfl, fun hlistener => ⟨hlistener, rfl, rfl⟩⟩
        ((h.sound k hk).connectFails hconnecting)

/-- A device whose first tear-down begins. -/
structure Ready (d : CastDevice) : Prop where
  parts : Connected d ∨ Bare d
  set : d.isSetUp = true
  waits : d.disconnecting = 0 ∧ d.resuming = 0
  up : d.tornDown = false
  removing : d.mzOnly = false → d.removing = true
  group : d.mzOnly = true → d.isAudioGroup = true ∧ d.isSetUp = true
  raised : d.raised = false

/-- A tear-down that has no `disconnect` to wait for any more. -/
theorem Consistent.finishTearDown (h : Consistent S) (hk : k < S.count)
    (hsound : ∀ j < S.count, j ≠ k → Sound (S.device j)) (hd : Ready (S.device k))
    (hrunning : (S.device k).running = false) : Tidy (S.finishTearDown k) := by
  obtain ⟨added, hr⟩ := finishTearDown_spec h hk hd.parts hd.up
  refine ⟨h.retire hk hd.up hr, fun j hj => ?_⟩
  by_cases hjk : j = k
  · subst hjk
    rw [hr.device_self]
    exact ⟨.tornDown ⟨rfl, hrunning, rfl, rfl, rfl⟩ hd.set hd.waits rfl rfl hd.removing, hd.group,
      hd.raised⟩
  · rw [hr.device_of_ne hjk]
    exact hsound j (hr.count ▸ hj) hjk

theorem Consistent.asyncTearDown (h : Consistent S) (hk : k < S.count)
    (hsound : ∀ j < S.count, j ≠ k → Sound (S.device j)) (hd : Ready (S.device k)) :
    Tidy (S.asyncTearDown k) := by
  unfold CastDevices.asyncTearDown
  rcases hd.parts with hconnected | hbare
  · -- it awaits `disconnect`
    rw [if_pos hconnected.chromecast]
    refine ⟨h.modify hk ⟨rfl, rfl, fun hlistener => ⟨hlistener, rfl, rfl⟩⟩, fun j hj => ?_⟩
    by_cases hjk : j = k
    · subst hjk
      rw [device_modify_self]
      refine ⟨.disconnecting (hconnected.of_parts rfl rfl rfl) hd.set ⟨?_, hd.waits.2⟩ hd.up
        hd.removing, hd.group, hd.raised⟩
      show (S.device j).disconnecting + 1 = 1
      rw [hd.waits.1]
    · rw [device_modify_of_ne _ _ _ hjk]
      exact hsound j hj hjk
  · -- there is nothing to disconnect
    have hnot : ¬ (S.device k).chromecast = true := by simp [hbare.chromecast]
    rw [if_neg hnot]
    exact h.finishTearDown hk hsound hd hbare.running

theorem Tidy.castRemoved (h : Tidy S) (k : ℕ) (ho : S.Orderly (.castRemoved k)) :
    Tidy (S.stepState (.castRemoved k)) := by
  simp only [stepState]
  split
  · next hguard =>
    obtain ⟨hmz, hhandlers⟩ := hguard
    have hk : k < S.count := h.lt_count fun hfresh => by
      rw [hfresh] at hhandlers
      cases hhandlers
    obtain ⟨life, group, raised⟩ := h.sound k hk
    have hwaits := ho hhandlers
    refine h.toConsistent.asyncTearDown hk (fun j hj _ => h.sound j hj) ?_
    have hremoving : (S.device k).mzOnly = false → (S.device k).removing = true := by simp [hmz]
    cases life with
    | created _ _ hnot =>
      rw [(group hmz).2] at hnot
      cases hnot
    | bare hbare hset _ hup => exact ⟨.inr hbare, hset, hwaits, hup, hremoving, group, raised⟩
    | connected hconnected hset _ hup =>
      exact ⟨.inl hconnected, hset, hwaits, hup, hremoving, group, raised⟩
    -- no tear-down is under way, and after one the handlers are disconnected
    | disconnecting _ _ hone | resuming _ _ _ _ hone => omega
    | tornDown _ _ _ _ hnone =>
      rw [hhandlers] at hnone
      cases hnone
  · exact h

theorem Tidy.removed (h : Tidy S) (k : ℕ) : Tidy (S.stepState (.removed k)) := by
  simp only [stepState]
  split
  · next hguard =>
    obtain ⟨hmz, hset, hnot⟩ := hguard
    have hk : k < S.count := h.lt_count fun hfresh => by
      rw [hfresh] at hset
      cases hset
    obtain ⟨life, group, raised⟩ := h.sound k hk
    have hconsistent : Consistent (S.modify k fun d => { d with removing := true }) :=
      h.toConsistent.modify hk ⟨rfl, rfl, fun hlistener => ⟨hlistener, rfl, rfl⟩⟩
    refine hconsistent.asyncTearDown hk (fun j hj hjk => ?_) ?_
    · rw [device_modify_of_ne _ _ _ hjk]
      exact h.sound j hj
    · rw [device_modify_self]
      cases life with
      | created _ _ hfalse =>
        rw [hset] at hfalse
        cases hfalse
      | bare hbare _ hwaits hup =>
        exact ⟨.inr (hbare.of_parts rfl), hset, hwaits, hup, fun _ => rfl, group, raised⟩
      | connected hconnected _ hwaits hup =>
        exact ⟨.inl (hconnected.of_parts rfl rfl rfl), hset, hwaits, hup, fun _ => rfl, group,
          raised⟩
      -- an entity is removed once, so its tear-down has not begun
      | disconnecting _ _ _ _ hremoving | resuming _ _ _ _ _ _ hremoving
      | tornDown _ _ _ _ _ hremoving =>
        have htrue := hremoving hmz
        rw [hnot] at htrue
        cases htrue
  · exact h

/-- The device after `disconnect` has returned. -/
def disconnected (d : CastDevice) : CastDevice :=
  { d with
    running := false
    disconnecting := d.disconnecting - 1
    resuming := d.resuming + 1 }

theorem Tidy.disconnectReturns (h : Tidy S) (k : ℕ) (reports : Bool) :
    Tidy (S.stepState (.disconnectReturns k reports)) := by
  simp only [stepState]
  split
  · exact h
  · next hne =>
    have hk : k < S.count := h.lt_count fun hfresh => by
      rw [hfresh] at hne
      exact hne rfl
    obtain ⟨life, group, raised⟩ := h.sound k hk
    cases life with
    | disconnecting hconnected hset hwaits hup hremoving =>
      have hconsistent : Consistent (S.modify k disconnected) :=
        h.toConsistent.modify hk ⟨rfl, rfl, fun hlistener => ⟨hlistener, rfl, rfl⟩⟩
      have hself : (S.modify k disconnected).device k = disconnected (S.device k) :=
        device_modify_self S k disconnected
      have hgone : Connected (disconnected (S.device k)) :=
        ⟨hconnected.chromecast, hconnected.statusListener, hconnected.valid,
          hconnected.registered, hconnected.connecting⟩
      have hconnected' : Connected ((S.modify k disconnected).device k) := hself ▸ hgone
      have hwaits' : (S.device k).disconnecting - 1 = 0 ∧ (S.device k).resuming + 1 = 1 := by
        omega
      unfold CastDevices.disconnect
      by_cases hreports : (reports && (S.device k).valid && !(S.device k).mzOnly) = true
      · -- the entity hears of it and invalidates itself
        simp only [hreports, if_true]
        obtain ⟨-, hspec⟩ := invalidate_spec hconsistent (.inl hconnected')
        refine h.update (k := k) (hconsistent.invalidate hk (.inl hconnected')) hspec.count
          (fun j hj => ?_) ?_
        · exact (hspec.device_of_ne hj).trans (device_modify_of_ne _ _ _ hj)
        · have hdevice : ((S.modify k disconnected).invalidate k).1.device k
              = invalidated (disconnected (S.device k)) := by
            rw [hspec.device_self, hself]
          show Sound (((S.modify k disconnected).invalidate k).1.device k)
          rw [hdevice]
          exact ⟨.resuming (.inr ⟨rfl, rfl, rfl, rfl, rfl⟩) rfl hconnected.connecting hset hwaits'
            hup hremoving, group, raised⟩
      · simp only [hreports, Bool.false_eq_true, if_false]
        refine h.update (k := k) hconsistent rfl (fun j hj => device_modify_of_ne _ _ _ hj) ?_
        show Sound ((S.modify k disconnected).device k)
        rw [hself]
        exact ⟨.resuming (.inl hgone) rfl hconnected.connecting hset hwaits' hup hremoving, group,
          raised⟩
    | created _ _ _ hwaits | bare _ _ hwaits | connected _ _ hwaits | resuming _ _ _ _ hwaits
    | tornDown _ _ hwaits => exact absurd hwaits.1 hne

theorem Tidy.tearDownResumes (h : Tidy S) (k : ℕ) : Tidy (S.stepState (.tearDownResumes k)) := by
  simp only [stepState]
  split
  · exact h
  · next hne =>
    have hk : k < S.count := h.lt_count fun hfresh => by
      rw [hfresh] at hne
      exact hne rfl
    obtain ⟨life, group, raised⟩ := h.sound k hk
    cases life with
    | resuming hparts hrunning hconnect hset hwaits hup hremoving =>
      have hconsistent : Consistent (S.modify k fun d => { d with resuming := d.resuming - 1 }) :=
        h.toConsistent.modify hk ⟨rfl, rfl, fun hlistener => ⟨hlistener, rfl, rfl⟩⟩
      refine hconsistent.finishTearDown hk (fun j hj hjk => ?_) ?_ ?_
      · rw [device_modify_of_ne _ _ _ hjk]
        exact h.sound j hj
      · rw [device_modify_self]
        have hwaits' : (S.device k).disconnecting = 0 ∧ (S.device k).resuming - 1 = 0 := by omega
        exact ⟨hparts.imp (fun h => h.of_parts rfl rfl rfl) (fun h => h.of_parts rfl), hset,
          hwaits', hup, hremoving, group, raised⟩
      · rw [device_modify_self]
        exact hrunning
    | created _ _ _ hwaits | bare _ _ hwaits | connected _ _ hwaits | disconnecting _ _ hwaits
    | tornDown _ _ hwaits => exact absurd hwaits.2 hne

/-- The device as it is created. -/
def found (info : FoundCast) : CastDevice :=
  { uuid := info.uuid
    mzOnly := info.isDynamicGroup
    isAudioGroup := info.isAudioGroup
    isSetUp := info.isDynamicGroup
    handlers := info.isDynamicGroup
    connecting := info.isDynamicGroup }

theorem discovered_spec {info : FoundCast} {added : Finset UUID} (hadded : S.added = some added)
    (hnew : info.uuid ∉ added) : S.stepState (.discovered info) =
      { S.modify S.count fun _ => found info with
        count := S.count + 1
        added := some (insert info.uuid added) } := by
  simp only [stepState, asyncCreateCastDevice, hadded, hnew, if_false]
  cases hgroup : info.isDynamicGroup with
  | false =>
    simp only [Bool.false_eq_true, if_false, found, hgroup]
  | true =>
    simp [asyncSetup, CastDevices.modify, found, hgroup]

theorem sound_found (info : FoundCast) : Sound (found info) := by
  refine ⟨?_, fun hgroup => ⟨info.grouped hgroup, hgroup⟩, rfl⟩
  cases hgroup : info.isDynamicGroup with
  | false => exact .created ⟨rfl, rfl, rfl, rfl, rfl⟩ hgroup hgroup ⟨rfl, rfl⟩ rfl
  | true => exact .bare ⟨rfl, rfl, rfl, rfl, rfl⟩ hgroup ⟨rfl, rfl⟩ rfl

/-- A device is created, and `added_cast_devices` has not had its uuid. -/
structure Creates (S S' : CastDevices) (info : FoundCast) (added : Finset UUID) : Prop where
  before : S.added = some added
  new : info.uuid ∉ added
  count : S'.count = S.count + 1
  added : S'.added = some (insert info.uuid added)
  device_self : S'.device S.count = found info
  device_of_ne : ∀ j, j ≠ S.count → S'.device j = S.device j
  multizone : S'.multizone = S.multizone
  base : S'.base = S.base
  state : S'.state = S.state

theorem discovered_creates {info : FoundCast} {added : Finset UUID}
    (hadded : S.added = some added) (hnew : info.uuid ∉ added) :
    Creates S (S.stepState (.discovered info)) info added := by
  rw [discovered_spec hadded hnew]
  exact ⟨hadded, hnew, rfl, rfl, device_modify_self S S.count fun _ => found info,
    fun j hj => device_modify_of_ne S S.count (fun _ => found info) hj, rfl, rfl, rfl⟩

theorem Consistent.create (h : Consistent S) {S' : CastDevices} {info : FoundCast}
    {added : Finset UUID} (hc : Creates S S' info added) (hloaded : S.state ≠ .notLoaded) :
    Consistent S' := by
  refine ⟨fun k hk => ?_, fun k hk hup => ?_, fun added' hadded' u hu => ?_,
    fun j k hjk hk huuid => ?_, fun m u k hmanaged => ?_, fun k hk => ?_, ?_⟩
  · rw [hc.count] at hk
    rw [hc.device_of_ne k (by omega)]
    exact h.fresh k (by omega)
  · rw [hc.count] at hk
    refine ⟨_, hc.added, ?_⟩
    rcases Nat.lt_or_eq_of_le (Nat.le_of_lt_succ hk) with hlt | rfl
    · rw [hc.device_of_ne k (Nat.ne_of_lt hlt)] at hup ⊢
      obtain ⟨added', hadded', hmem⟩ := h.claimed k hlt hup
      rw [hc.before] at hadded'
      obtain rfl := Option.some.inj hadded'
      exact Finset.mem_insert_of_mem hmem
    · rw [hc.device_self]
      exact Finset.mem_insert_self _ _
  · rw [hc.added] at hadded'
    obtain rfl := Option.some.inj hadded'
    rw [hc.count]
    rcases Finset.mem_insert.mp hu with rfl | hu
    · refine ⟨S.count, Nat.lt_succ_self _, ?_⟩
      rw [hc.device_self]
      exact ⟨rfl, rfl⟩
    · obtain ⟨k, hk, hread⟩ := h.owned added hc.before u hu
      refine ⟨k, Nat.lt_succ_of_lt hk, ?_⟩
      rw [hc.device_of_ne k (Nat.ne_of_lt hk)]
      exact hread
  · rw [hc.count] at hk
    have hj : j < S.count := Nat.lt_of_lt_of_le hjk (Nat.le_of_lt_succ hk)
    rw [hc.device_of_ne j (Nat.ne_of_lt hj)] at huuid ⊢
    rcases Nat.lt_or_eq_of_le (Nat.le_of_lt_succ hk) with hlt | rfl
    · rw [hc.device_of_ne k (Nat.ne_of_lt hlt)] at huuid
      exact h.older j k hjk hlt huuid
    · -- an older device with this uuid would be in `added_cast_devices`
      rw [hc.device_self] at huuid
      by_contra hup
      obtain ⟨added', hadded', hmem⟩ := h.claimed j hj (by simpa using hup)
      rw [hc.before] at hadded'
      obtain rfl := Option.some.inj hadded'
      rw [huuid] at hmem
      exact hc.new hmem
  · rw [hc.multizone] at hmanaged
    have hk : k ≠ S.count := by
      rintro rfl
      have hlistener := (h.managed m u S.count hmanaged).1
      rw [h.fresh S.count (Nat.le_refl _)] at hlistener
      cases hlistener
    rw [hc.device_of_ne k hk]
    exact h.managed m u k hmanaged
  · obtain ⟨-, hover⟩ := hk
    rw [hc.state, hc.base] at hover
    rcases hover with hnot | hold
    · exact absurd hnot hloaded
    · have hlt : k < S.count := Nat.lt_of_lt_of_le hold h.base
      rw [hc.device_of_ne k (Nat.ne_of_lt hlt)]
      exact h.ended k ⟨hlt, .inr hold⟩
  · rw [hc.base, hc.count]
    exact Nat.le_succ_of_le h.base

theorem Tidy.create (h : Tidy S) {S' : CastDevices} {info : FoundCast} {added : Finset UUID}
    (hc : Creates S S' info added) (hloaded : S.state ≠ .notLoaded) : Tidy S' := by
  refine ⟨h.toConsistent.create hc hloaded, fun k hk => ?_⟩
  rw [hc.count] at hk
  rcases Nat.lt_or_eq_of_le (Nat.le_of_lt_succ hk) with hlt | rfl
  · rw [hc.device_of_ne k (Nat.ne_of_lt hlt)]
    exact h.sound k hlt
  · rw [hc.device_self]
    exact sound_found info

theorem Tidy.discovered (h : Tidy S) (info : FoundCast) (ho : S.Orderly (.discovered info)) :
    Tidy (S.stepState (.discovered info)) := by
  cases hadded : S.added with
  | none =>
    simp only [stepState, asyncCreateCastDevice, hadded]
    exact h
  | some added =>
    by_cases hnew : info.uuid ∈ added
    · simp only [stepState, asyncCreateCastDevice, hadded, hnew, if_true]
      exact h
    · exact h.create (discovered_creates hadded hnew) (ho added hadded hnew)

theorem Tidy.setUp (h : Tidy S) : Tidy (S.stepState .setUp) := by
  simp only [stepState, asyncSetupEntry]
  split
  · next hstate =>
    have hdown : ∀ k < S.count, (S.device k).tornDown = true := fun k hk =>
      h.ended k ⟨hk, .inl hstate⟩
    refine ⟨⟨h.fresh, fun k hk hup => ?_, fun added hadded u hu => ?_, h.older, h.managed,
      fun k hk => hdown k hk.1, Nat.le_refl _⟩, h.sound⟩
    · rw [hdown k hk] at hup
      cases hup
    · obtain rfl := Option.some.inj hadded
      exact absurd hu (Finset.notMem_empty u)
  · exact h

theorem Sound.leaving (h : Sound d) (leaving : Bool) : Sound { d with leaving := leaving } := by
  refine ⟨h.life.of_same ?_, h.group, h.raised⟩
  exact ⟨fun h => h.of_parts rfl, fun h => h.of_parts rfl rfl rfl, rfl, rfl, rfl, rfl, rfl, rfl,
    rfl, rfl, rfl⟩

theorem Tidy.unload (h : Tidy S) : Tidy (S.stepState .unload) := by
  simp only [stepState, asyncUnloadPlatforms]
  split
  · refine ⟨h.of_same ⟨rfl, rfl, rfl, fun hstate => absurd hstate (by simp),
      fun j _ hfresh => ?_,
      fun j => ⟨rfl, rfl⟩⟩ h.managed, fun j hj => (h.sound j hj).leaving _⟩
    simp only [hfresh]
    rfl
  · exact h

theorem Tidy.unloaded (h : Tidy S) (deletesData : Bool) (ho : S.Orderly (.unloaded deletesData)) :
    Tidy (S.stepState (.unloaded deletesData)) := by
  simp only [stepState, finishUnload]
  split
  · next hends =>
    have hdown : ∀ k < S.count, (S.device k).tornDown = true := fun k hk =>
      (ho hends k hk).elim (hends.2 k hk) id
    refine ⟨⟨h.fresh, fun k hk hup => ?_, fun added hadded u hu => ?_, h.older, h.managed,
      fun k hk => hdown k hk.1, h.base⟩, h.sound⟩
    · rw [hdown k hk] at hup
      cases hup
    · cases deletesData with
      | true => cases hadded
      | false => exact h.owned added hadded u hu
  · exact h

theorem Tidy.step (h : Tidy S) (event : CastEvent) (ho : S.Orderly event) :
    Tidy (S.stepState event) := by
  cases event with
  | setUp => exact h.setUp
  | discovered info => exact h.discovered info ho
  | addedToHass k => exact h.addedToHass k
  | rediscovered k isAudioGroup => exact h.rediscovered k isAudioGroup ho
  | connectReturns k returns => exact h.connectReturns k returns ho
  | castRemoved k => exact h.castRemoved k ho
  | removed k => exact h.removed k
  | disconnectReturns k reports => exact h.disconnectReturns k reports
  | tearDownResumes k => exact h.tearDownResumes k
  | unload => exact h.unload
  | unloaded deletesData => exact h.unloaded deletesData ho

theorem tidy_init : Tidy {} := by
  refine ⟨⟨fun _ _ => rfl, fun k hk => absurd hk k.not_lt_zero, fun added hadded => ?_,
    fun j k _ hk => absurd hk k.not_lt_zero, fun m u k hmanaged => ?_,
    fun k hk => absurd hk.1 k.not_lt_zero, Nat.le_refl _⟩, fun k hk => absurd hk k.not_lt_zero⟩
  · cases hadded
  · cases hmanaged

theorem Tidy.raised (h : Tidy S) (k : ℕ) : (S.device k).raised = false := by
  rcases Nat.lt_or_ge k S.count with hk | hk
  · exact (h.sound k hk).raised
  · rw [h.fresh k hk]

/-- **Tear-down is complete.** -/
theorem tears_down {run : List CastEvent} (h : Machine.Along step Orderly {} run) :
    Machine.Along step TearsDown {} run := by
  refine Machine.along_mono_of (P := Tidy) (fun S event hS ho => ?_)
    (fun S event hS ho => hS.step event ho) tidy_init h
  have hnext := hS.step event ho
  exact ⟨fun k hk hover => hnext.clean hk hover.1, hnext.raised,
    fun k hk => hnext.clean hk.1 (hnext.ended k hk)⟩

/-- A dynamic group. -/
def group : FoundCast := ⟨⟨1⟩, true, true, fun _ => rfl⟩

/-- A speaker. -/
def speaker : FoundCast := ⟨⟨2⟩, false, false, fun h => by cases h⟩

/-- A group is removed, a speaker is found, and the entry is unloaded. -/
def tidyRun : List CastEvent :=
  [.setUp, .discovered group, .connectReturns 0 true, .castRemoved 0, .disconnectReturns 0 false,
    .tearDownResumes 0, .discovered speaker, .addedToHass 1, .connectReturns 1 true, .unload,
    .removed 1, .disconnectReturns 1 true, .tearDownResumes 1, .unloaded true]

theorem tears_down_tidyRun :
    Machine.Along step Orderly {} tidyRun ∧ Machine.Along step TearsDown {} tidyRun :=
  ⟨by decide, tears_down (by decide)⟩

/-- The removal signal of a group comes before its connect has returned. -/
def removedWhileConnecting : List CastEvent :=
  [.setUp, .discovered group, .castRemoved 0, .connectReturns 0 true]

/-- A second removal signal comes while the tear-down awaits the disconnect. -/
def removedTwice : List CastEvent :=
  [.setUp, .discovered group, .connectReturns 0 true, .castRemoved 0, .castRemoved 0,
    .disconnectReturns 0 false, .disconnectReturns 0 false, .tearDownResumes 0,
    .tearDownResumes 0]

/-- The entry is unloaded with a dynamic group. -/
def unloadedWithGroup : List CastEvent :=
  [.setUp, .discovered group, .connectReturns 0 true, .unload, .unloaded true]

/-- A group stays connected after its tear-down or after the unload, or its second tear-down
raises. -/
theorem not_tearsDown : ¬ Machine.Along step TearsDown {} removedWhileConnecting ∧
    ¬ Machine.Along step TearsDown {} removedTwice ∧
    ¬ Machine.Along step TearsDown {} unloadedWithGroup := by
  refine ⟨fun h => ?_, fun h => ?_, fun h => ?_⟩
  · have hrun : Machine.Along step TearsDown {}
        (removedWhileConnecting.dropLast ++ [.connectReturns 0 true]) := h
    obtain ⟨-, hlast, -⟩ := (Machine.along_append _ _ _).mp hrun
    have hconnected := (hlast.clean 0 (by decide) (by unfold Over; decide)).disconnected
    revert hconnected
    decide
  · have hrun : Machine.Along step TearsDown {}
        (removedTwice.dropLast ++ [.tearDownResumes 0]) := h
    obtain ⟨-, hlast, -⟩ := (Machine.along_append _ _ _).mp hrun
    have hraised := hlast.raised 0
    revert hraised
    decide
  · have hrun : Machine.Along step TearsDown {}
        (unloadedWithGroup.dropLast ++ [.unloaded true]) := h
    obtain ⟨-, hlast, -⟩ := (Machine.along_append _ _ _).mp hrun
    have hconnected := (hlast.unloaded 0 (by unfold HasUnloaded; decide)).disconnected
    revert hconnected
    decide

end CastDevices
end CastDelivery
