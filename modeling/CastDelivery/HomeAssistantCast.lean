import CastDelivery.Lib.Dict
import CastDelivery.Lib.Machine
import Mathlib.Data.List.Perm.Subperm

/-!
# The user of Home Assistant Cast

`home_assistant_cast.py` keeps a system user in the admin group and stores its id in the data of
the config entry. The options flow writes the data of the entry too, as a whole: what it writes is
a copy it made when its first step was submitted, so it can undo what a set-up has stored since.

`leaked_le`: the users that the entry does not name are at most the flows that finished with
outdated data. `sent_token_held`: what a view is shown with is a token of a user that is there.
-/

namespace CastDelivery

/-- The config entry, numbered, with `entry.data.get("user_id")`. -/
structure CastUserEntry where
  number : ℕ
  userId : Option ℕ := none
deriving DecidableEq

/-- The users named `CAST_USER_NAME`, the entry and its options flows. -/
structure HassCast where
  /-- `hass.auth`: the refresh tokens of each user, by the id of the user. -/
  users : Dict ℕ (List ℕ) := ∅
  /-- The users created so far; the number is the next id. -/
  usersCreated : ℕ := 0
  tokensCreated : ℕ := 0
  entry : Option CastUserEntry := none
  entriesAdded : ℕ := 0
  /-- `CastOptionsFlowHandler._data` of each open flow, with the number of its entry. -/
  flows : ℕ → Option CastUserEntry := fun _ => none
  /-- The refresh token that `handle_show_view` sends. -/
  service : Option ℕ := none

inductive HassCastEvent
  /-- The config flow creates the entry. -/
  | entryAdded
  /-- `async_setup_ha_cast`. -/
  | setUp
  /-- `async_remove_entry`. -/
  | entryRemoved
  /-- `async_step_init` of an options flow is submitted. -/
  | flowSubmitted (flow : ℕ)
  /-- `_async_finish` of an options flow. -/
  | flowFinished (flow : ℕ)
  /-- An administrator removes a user. -/
  | userRemoved (user : ℕ)
  /-- An administrator removes a refresh token. -/
  | tokenRemoved (user token : ℕ)
  /-- A call of `show_lovelace_view`, which raises if `get_url` finds no URL. -/
  | showView (hasUrl : Bool)
deriving DecidableEq

namespace HassCast

/-- `entry.data.get("user_id")`. -/
def userId (S : HassCast) : Option ℕ := S.entry.bind CastUserEntry.userId

/-- The user that `entry.data` names, if `async_get_user` finds it. -/
def user (S : HassCast) : Option ℕ := S.userId.filter (· ∈ S.users.keys)

/-- `async_create_system_user`, and the update of the data of the entry. -/
def createUser (S : HassCast) (entry : CastUserEntry) : HassCast :=
  { S with
    users := S.users.set S.usersCreated []
    usersCreated := S.usersCreated + 1
    entry := some { entry with userId := some S.usersCreated } }

/-- The first refresh token of a user, or a new one. -/
def takeToken (S : HassCast) (user : ℕ) : HassCast :=
  match (S.users.get? user).getD [] with
  | token :: _ => { S with service := some token }
  | [] =>
    { S with
      users := S.users.set user [S.tokensCreated]
      tokensCreated := S.tokensCreated + 1
      service := some S.tokensCreated }

/-- `async_setup_ha_cast`. -/
def asyncSetupHaCast (S : HassCast) : HassCast :=
  match S.entry with
  | none => S
  | some entry =>
    match S.user with
    | some user => S.takeToken user
    | none => (S.createUser entry).takeToken S.usersCreated

/-- `async_remove_entry`, with `async_remove_user`. -/
def asyncRemoveEntry (S : HassCast) : HassCast :=
  { S with
    users := S.user.elim S.users S.users.erase
    entry := none }

/-- `_async_finish`; it raises if the entry is gone. -/
def asyncFinish (S : HassCast) (flow : ℕ) : HassCast :=
  match S.flows flow, S.entry with
  | some copied, some entry =>
    if copied.number = entry.number then
      { S with entry := some copied, flows := Function.update S.flows flow none }
    else S
  | _, _ => S

/-- One event. -/
def stepState (S : HassCast) : HassCastEvent → HassCast
  | .entryAdded =>
    match S.entry with
    | none =>
      { S with entry := some { number := S.entriesAdded }, entriesAdded := S.entriesAdded + 1 }
    | some _ => S
  | .setUp => S.asyncSetupHaCast
  | .entryRemoved => S.asyncRemoveEntry
  | .flowSubmitted flow => { S with flows := Function.update S.flows flow S.entry }
  | .flowFinished flow => S.asyncFinish flow
  | .userRemoved user => { S with users := S.users.erase user }
  | .tokenRemoved user token =>
    match S.users.get? user with
    | none => S
    | some tokens => { S with users := S.users.set user (tokens.erase token) }
  | .showView _ => S

/-- The refresh tokens that `handle_show_view` sends. -/
def sent (S : HassCast) : HassCastEvent → List ℕ
  | .showView true => S.service.toList
  | _ => []

/-- One event, with the refresh tokens that it sends to a device. -/
def step (S : HassCast) (e : HassCastEvent) : HassCast × List ℕ := (S.stepState e, S.sent e)

/-! ## Leaked users -/

/-- The users that the entry does not name. -/
def leaked (S : HassCast) : List ℕ := S.users.keys.filter fun u => S.userId ≠ some u

/-- An options flow finishes with a copy that lacks the user that the entry names by then. -/
def outdated (S : HassCast) : HassCastEvent → ℕ
  | .flowFinished flow =>
    match S.flows flow, S.user with
    | some copied, some user =>
      if S.entry.map CastUserEntry.number = some copied.number ∧ copied.userId ≠ some user then 1
      else 0
    | _, _ => 0
  | _ => 0

/-- The ids of new users are new. -/
def Fresh (S : HassCast) : Prop := ∀ u ∈ S.users.keys, u < S.usersCreated

/-! ## What each event leaks -/

theorem leaked_of_user_eq {S S' : HassCast} (hentry : S'.userId = S.userId)
    (hkeys : S'.users.keys.Sublist S.users.keys) : S'.leaked.length ≤ S.leaked.length := by
  unfold leaked
  rw [hentry]
  exact (hkeys.filter _).length_le

theorem keys_takeToken {S : HassCast} {user : ℕ} (h : user ∈ S.users.keys) :
    (S.takeToken user).users.keys = S.users.keys := by
  unfold takeToken
  split
  · rfl
  · exact (Dict.keys_set S.users user _).trans (if_pos h)

@[simp] theorem userId_takeToken (S : HassCast) (user : ℕ) :
    (S.takeToken user).userId = S.userId := by
  unfold takeToken
  split <;> rfl

@[simp] theorem usersCreated_takeToken (S : HassCast) (user : ℕ) :
    (S.takeToken user).usersCreated = S.usersCreated := by
  unfold takeToken
  split <;> rfl

theorem mem_keys_of_user {S : HassCast} {user : ℕ} (h : S.user = some user) :
    user ∈ S.users.keys := by
  obtain ⟨-, hmem⟩ := Option.filter_eq_some_iff.mp h
  exact of_decide_eq_true hmem

theorem notMem_keys_of_user {S : HassCast} {user : ℕ} (h : S.user = none)
    (hid : S.userId = some user) : user ∉ S.users.keys := by
  intro hmem
  rw [HassCast.user, hid, Option.filter_some, if_pos (decide_eq_true hmem)] at h
  cases h

/-- Without a user that the entry names, there is none to lose. -/
theorem leaked_of_no_user {S : HassCast} (h : S.user = none) : S.leaked = S.users.keys :=
  List.filter_eq_self.mpr fun _ hu => decide_eq_true fun hid => notMem_keys_of_user h hid hu

/-- A set-up that creates a user has no user to leak: it did not find the one of the entry. -/
theorem leaked_createUser {S : HassCast} {entry : CastUserEntry} (hfresh : S.Fresh)
    (h : S.user = none) :
    ((S.createUser entry).takeToken S.usersCreated).leaked = S.leaked := by
  have hnew : S.usersCreated ∉ S.users.keys := fun hmem => Nat.lt_irrefl _ (hfresh _ hmem)
  have hkeys : (S.createUser entry).users.keys = S.users.keys ++ [S.usersCreated] :=
    (Dict.keys_set S.users S.usersCreated []).trans (if_neg hnew)
  have hkept : (S.users.keys.filter fun u => some S.usersCreated ≠ some u) = S.users.keys :=
    List.filter_eq_self.mpr fun u hu =>
      decide_eq_true fun hid => hnew (Option.some.inj hid ▸ hu)
  rw [leaked_of_no_user h, leaked, userId_takeToken, keys_takeToken (by rw [hkeys]; simp), hkeys,
    List.filter_append]
  exact (congrArg₂ _ hkept (by simp [createUser, userId])).trans (List.append_nil _)

theorem fresh_createUser {S : HassCast} {entry : CastUserEntry} (hfresh : S.Fresh) :
    ((S.createUser entry).takeToken S.usersCreated).Fresh := by
  intro u hu
  have hmem : S.usersCreated ∈ (S.createUser entry).users.keys :=
    (Dict.mem_keys_set S.users _ _ _).mpr (.inl rfl)
  rw [keys_takeToken hmem] at hu
  rw [usersCreated_takeToken]
  rcases (Dict.mem_keys_set S.users _ _ _).mp hu with rfl | hold
  · exact Nat.lt_succ_self _
  · exact Nat.lt_succ_of_lt (hfresh u hold)

/-- The entry names one user at most. -/
theorem keys_length_le (S : HassCast) : S.users.keys.length ≤ S.leaked.length + 1 := by
  have hnamed : (S.users.keys.filter fun u => !decide (S.userId ≠ some u)) ⊆ S.userId.toList := by
    intro u hu
    obtain ⟨-, hid⟩ := List.mem_filter.mp hu
    simpa using hid
  have hnodup : S.users.keys.Nodup := S.users.nodup
  have hle := ((hnodup.filter _).subperm hnamed).length_le
  have hone : S.userId.toList.length ≤ 1 := by cases S.userId <;> simp
  have hsplit := List.length_eq_length_filter_add (l := S.users.keys)
    fun u => decide (S.userId ≠ some u)
  rw [leaked]
  omega

/-- A flow that finishes changes nothing, or puts the user of its copy into the entry. -/
theorem asyncFinish_cases (S : HassCast) (flow : ℕ) :
    S.asyncFinish flow = S ∨ ∃ copied, S.flows flow = some copied ∧
      S.entry.map CastUserEntry.number = some copied.number ∧
      (S.asyncFinish flow).users = S.users ∧ (S.asyncFinish flow).userId = copied.userId := by
  unfold asyncFinish
  cases hcopied : S.flows flow with
  | none => exact .inl rfl
  | some copied =>
    cases hentry : S.entry with
    | none => exact .inl rfl
    | some entry =>
      by_cases hsame : copied.number = entry.number
      · refine .inr ⟨copied, rfl, congrArg some hsame.symm, ?_⟩
        dsimp only
        rw [if_pos hsame]
        exact ⟨rfl, rfl⟩
      · exact .inl (if_neg hsame)

theorem leaked_asyncFinish (S : HassCast) (flow : ℕ) :
    (S.asyncFinish flow).leaked.length ≤ S.leaked.length + outdated S (.flowFinished flow) := by
  rcases S.asyncFinish_cases flow with hsame | ⟨copied, hcopied, hnumber, husers, hid⟩
  · rw [hsame]
    exact Nat.le_add_right _ _
  · have hall : (S.asyncFinish flow).leaked.length ≤ S.users.keys.length :=
      husers ▸ List.length_filter_le _ _
    cases huser : S.user with
    | none =>
      rw [leaked_of_no_user huser]
      exact Nat.le_add_right_of_le hall
    | some user =>
      by_cases hkept : copied.userId = some user
      · -- the copy names the same user
        obtain ⟨hnamed, -⟩ := Option.filter_eq_some_iff.mp huser
        have hleaked := leaked_of_user_eq (hid.trans (hkept.trans hnamed.symm))
          (husers ▸ List.Sublist.refl S.users.keys)
        exact Nat.le_add_right_of_le hleaked
      · have hone : outdated S (.flowFinished flow) = 1 := by
          simp only [outdated, hcopied, huser]
          exact if_pos ⟨hnumber, hkept⟩
        rw [hone]
        exact Nat.le_trans hall (keys_length_le S)

/-- Removing the entry removes the user it names, if it is there. -/
theorem leaked_asyncRemoveEntry (S : HassCast) :
    S.asyncRemoveEntry.leaked.length ≤ S.leaked.length := by
  have hall : S.asyncRemoveEntry.leaked = S.asyncRemoveEntry.users.keys :=
    List.filter_eq_self.mpr fun u _ => by simp [asyncRemoveEntry, userId]
  rw [hall]
  unfold asyncRemoveEntry
  cases h : S.user with
  | none =>
    rw [leaked_of_no_user h]
    exact Nat.le_refl _
  | some user =>
    obtain ⟨hid, -⟩ := Option.filter_eq_some_iff.mp h
    dsimp only [Option.elim]
    rw [Dict.keys_erase, leaked, hid]
    refine (List.filter_congr fun u _ => ?_).symm ▸ Nat.le_refl _
    simp [eq_comm]

theorem fresh_of_keys {S S' : HassCast} (h : S.Fresh)
    (hkeys : ∀ u ∈ S'.users.keys, u ∈ S.users.keys)
    (hcreated : S'.usersCreated = S.usersCreated) : S'.Fresh := by
  intro u hu
  rw [hcreated]
  exact h u (hkeys u hu)

theorem leaked_step {S : HassCast} (hfresh : S.Fresh) (e : HassCastEvent) :
    (S.step e).1.leaked.length ≤ S.leaked.length + outdated S e := by
  cases e with
  | entryAdded =>
    dsimp only [step, stepState]
    split
    · next h =>
      refine leaked_of_user_eq ?_ (List.Sublist.refl _)
      rw [userId, userId, h]
      rfl
    · exact Nat.le_refl _
  | setUp =>
    dsimp only [step, stepState, asyncSetupHaCast]
    split
    · exact Nat.le_refl _
    · split
      · next user h =>
        refine leaked_of_user_eq (userId_takeToken S user) ?_
        rw [keys_takeToken (mem_keys_of_user h)]
      · next h =>
        rw [leaked_createUser hfresh h]
        exact Nat.le_refl _
  | entryRemoved => exact leaked_asyncRemoveEntry S
  | flowSubmitted flow => exact Nat.le_refl _
  | flowFinished flow => exact leaked_asyncFinish S flow
  | userRemoved user => exact leaked_of_user_eq rfl (List.filter_sublist.map _)
  | tokenRemoved user token =>
    dsimp only [step, stepState]
    split
    · exact Nat.le_refl _
    · next tokens h =>
      refine leaked_of_user_eq rfl ?_
      have hmem : user ∈ S.users.keys := (Dict.mem_keys _ _).mpr (by rw [h]; rfl)
      rw [Dict.keys_set, if_pos hmem]
  | showView hasUrl => exact Nat.le_refl _

theorem fresh_step {S : HassCast} (hfresh : S.Fresh) (e : HassCastEvent) : (S.step e).1.Fresh := by
  cases e with
  | entryAdded =>
    dsimp only [step, stepState]
    split
    · exact fresh_of_keys hfresh (fun _ h => h) rfl
    · exact hfresh
  | setUp =>
    dsimp only [step, stepState, asyncSetupHaCast]
    split
    · exact hfresh
    · split
      · next user h =>
        refine fresh_of_keys hfresh (fun u hu => ?_) (usersCreated_takeToken S user)
        rwa [keys_takeToken (mem_keys_of_user h)] at hu
      · exact fresh_createUser hfresh
  | entryRemoved =>
    refine fresh_of_keys hfresh (fun u hu => ?_) rfl
    dsimp only [step, stepState, asyncRemoveEntry] at hu
    cases h : S.user with
    | none => rwa [h] at hu
    | some user =>
      rw [h] at hu
      exact (List.filter_sublist.map _).subset hu
  | flowSubmitted flow => exact hfresh
  | flowFinished flow =>
    dsimp only [step, stepState, asyncFinish]
    split
    · split
      · exact fresh_of_keys hfresh (fun _ h => h) rfl
      · exact hfresh
    · exact hfresh
  | userRemoved user =>
    exact fresh_of_keys hfresh (fun u hu => (List.filter_sublist.map _).subset hu) rfl
  | tokenRemoved user token =>
    dsimp only [step, stepState]
    split
    · exact hfresh
    · next tokens h =>
      refine fresh_of_keys hfresh (fun u hu => ?_) rfl
      have hmem : user ∈ S.users.keys := (Dict.mem_keys _ _).mpr (by rw [h]; rfl)
      rwa [Dict.keys_set, if_pos hmem] at hu
  | showView hasUrl => exact hfresh

/-- **The users that the entry does not name.** There are at most as many of them as options
flows finished with a copy of the data that lacked the user whom the entry named by then. -/
theorem leaked_le (run : List HassCastEvent) :
    (Machine.final step {} run).leaked.length ≤ Machine.tally step outdated {} run := by
  have hfresh : Fresh {} := fun u hu => by cases hu
  have hstep : ∀ S e, Fresh S → Fresh (step S e).1 ∧
      (step S e).1.leaked.length ≤ S.leaked.length + outdated S e :=
    fun S e hS => ⟨fresh_step hS e, leaked_step hS e⟩
  calc (Machine.final step {} run).leaked.length
      ≤ ({} : HassCast).leaked.length + Machine.tally step outdated {} run :=
        Machine.le_tally (m := fun S => S.leaked.length) hstep hfresh run
    _ = Machine.tally step outdated {} run := Nat.zero_add _

-- a flow that was submitted before the first set-up stored its user
example : (Machine.final step {} [.entryAdded, .flowSubmitted 0, .setUp, .flowFinished 0,
    .setUp]).leaked = [0] := by decide

/-! ## The token of a view -/

/-- A user has a refresh token. -/
def Held (S : HassCast) (token : ℕ) : Prop :=
  ∃ user tokens, S.users.get? user = some tokens ∧ token ∈ tokens

/-- An event that takes a user or a token away. -/
def Takes : HassCastEvent → Prop
  | .entryRemoved | .userRemoved _ | .tokenRemoved _ _ => True
  | _ => False

/-- What `handle_show_view` sends is held. -/
def Armed (S : HassCast) : Prop := ∀ token, S.service = some token → S.Held token

theorem held_takeToken {S : HassCast} {token : ℕ} (h : S.Held token) (user : ℕ) :
    (S.takeToken user).Held token := by
  obtain ⟨owner, tokens, howner, hmem⟩ := h
  unfold takeToken
  split
  · exact ⟨owner, tokens, howner, hmem⟩
  · next hnone =>
    -- a user who gets a token had none
    have hne : owner ≠ user := by
      rintro rfl
      rw [howner, Option.getD_some] at hnone
      rw [hnone] at hmem
      cases hmem
    refine ⟨owner, tokens, ?_, hmem⟩
    rw [Dict.get?_set, if_neg hne]
    exact howner

theorem armed_takeToken (S : HassCast) (user : ℕ) : (S.takeToken user).Armed := by
  intro token hservice
  unfold takeToken at hservice ⊢
  split at hservice
  · next first rest htokens =>
    obtain rfl : first = token := Option.some.inj hservice
    cases htaken : S.users.get? user with
    | none =>
      rw [htaken] at htokens
      cases htokens
    | some tokens =>
      rw [htaken, Option.getD_some] at htokens
      exact ⟨user, tokens, htaken, htokens ▸ List.mem_cons_self⟩
  · obtain rfl : S.tokensCreated = token := Option.some.inj hservice
    exact ⟨user, [S.tokensCreated], Dict.get?_set_self _ _ _, List.mem_singleton_self _⟩

theorem held_createUser {S : HassCast} {token : ℕ} (hfresh : S.Fresh) (h : S.Held token)
    (entry : CastUserEntry) : (S.createUser entry).Held token := by
  obtain ⟨owner, tokens, howner, hmem⟩ := h
  have hold : owner < S.usersCreated :=
    hfresh owner ((Dict.mem_keys _ _).mpr (by rw [howner]; rfl))
  refine ⟨owner, tokens, ?_, hmem⟩
  unfold createUser
  rw [Dict.get?_set, if_neg (Nat.ne_of_lt hold)]
  exact howner

/-- What an event does to the tokens: it leaves them and the service alone, or it is a set-up. -/
theorem stepState_cases (S : HassCast) {e : HassCastEvent} (he : ¬ Takes e) :
    ((S.stepState e).users = S.users ∧ (S.stepState e).service = S.service) ∨
      S.stepState e = S.asyncSetupHaCast := by
  cases e with
  | setUp => exact .inr rfl
  | entryAdded =>
    dsimp only [stepState]
    split <;> exact .inl ⟨rfl, rfl⟩
  | flowSubmitted flow => exact .inl ⟨rfl, rfl⟩
  | flowFinished flow =>
    dsimp only [stepState, asyncFinish]
    split
    · split <;> exact .inl ⟨rfl, rfl⟩
    · exact .inl ⟨rfl, rfl⟩
  | showView hasUrl => exact .inl ⟨rfl, rfl⟩
  | entryRemoved => exact absurd trivial he
  | userRemoved user => exact absurd trivial he
  | tokenRemoved user token => exact absurd trivial he

theorem held_step {S : HassCast} {e : HassCastEvent} {token : ℕ} (he : ¬ Takes e)
    (hfresh : S.Fresh) (h : S.Held token) : (S.stepState e).Held token := by
  rcases S.stepState_cases he with ⟨husers, -⟩ | hsetUp
  · unfold Held
    rw [husers]
    exact h
  · rw [hsetUp]
    unfold asyncSetupHaCast
    split
    · exact h
    · split
      · exact held_takeToken h _
      · exact held_takeToken (held_createUser hfresh h _) _

theorem armed_step {S : HassCast} {e : HassCastEvent} (he : ¬ Takes e) (h : S.Armed) :
    (S.stepState e).Armed := by
  rcases S.stepState_cases he with ⟨husers, hservice⟩ | hsetUp
  · unfold Armed Held
    rw [husers, hservice]
    exact h
  · rw [hsetUp]
    unfold asyncSetupHaCast
    split
    · exact h
    · split <;> exact armed_takeToken _ _

/-- **A view is shown with a token that is held**, as long as no user and no token is removed. -/
theorem sent_token_held {run : List HassCastEvent} (hrun : ∀ e ∈ run, ¬ Takes e) {token : ℕ}
    (h : token ∈ Machine.emitted step {} run) : (Machine.final step {} run).Held token := by
  have hfrom : ∀ S : HassCast, S.Fresh → S.Armed → token ∈ Machine.emitted step S run →
      (Machine.final step S run).Held token := by
    clear h
    induction run with
    | nil => exact fun S _ _ hmem => absurd hmem List.not_mem_nil
    | cons e run ih =>
      intro S hfresh harmed hmem
      obtain ⟨he, hlater⟩ := List.forall_mem_cons.mp hrun
      rw [Machine.emitted_cons, List.mem_append] at hmem
      rw [Machine.final_cons]
      rcases hmem with hsent | hrest
      · -- the token was held when it was sent, and stays so
        have hheld : S.Held token := by
          unfold step sent at hsent
          split at hsent
          · exact harmed token (Option.mem_toList.mp hsent)
          · cases hsent
        refine (Machine.final_of_along (P := fun T : HassCast => T.Fresh ∧ T.Held token)
          (R := fun _ e => ¬ Takes e) (fun T e hT he => ?_) ?_ (Machine.along_of_forall hlater)).2
        · exact ⟨fresh_step hT.1 e, held_step he hT.1 hT.2⟩
        · exact ⟨fresh_step hfresh e, held_step he hfresh hheld⟩
      · exact ih hlater _ (fresh_step hfresh e) (armed_step he harmed) hrest
  exact hfrom {} (fun u hu => by cases hu) nofun h

end HassCast
end CastDelivery
