import CastDelivery.Issues.Home

/-!
# Issues about announcements

`async_announce` renders the template of an announcement, and raises an issue under the digest of
its text or deletes it. The registry of the issues is shared with everything else that
`RepairManager` does.

`template_issue`: what the registry holds under a digest is the issue of the last announcement with
this digest, if it failed to render and Home Assistant was not restarted since.
-/

namespace CastDelivery

/-- `ISSUE_TEMPLATE_ERROR`. -/
def ISSUE_TEMPLATE_ERROR : String := "tts_template_error"

/-- An announcement, up to its TTS request. -/
structure Announcement where
  entityId : String
  message : String
  /-- `Template(message).async_render(..)`, unless it raises `TemplateError`. -/
  rendered : Except String String
deriving DecidableEq

namespace Announcement

/-- The error that `async_announce` raises `ServiceValidationError` for. -/
def error? (a : Announcement) : Option String :=
  match a.rendered with
  | .error err => some err
  | .ok rendered =>
    if strip rendered = "" then some "template rendered to an empty message" else none

/-- The text in the placeholders. -/
def placeholder (template : String) : String :=
  if template.toList.length ≤ 200 then template
  else String.ofList (template.toList.take 197) ++ "..."

/-- The issue of `async_template_error`. -/
def issue (entityId template error : String) : Issue where
  severity := .error
  translationKey := ISSUE_TEMPLATE_ERROR
  placeholders :=
    [("entity_id", entityId), ("template", placeholder template), ("error", error)]

/-- The issue of an announcement that fails to render. -/
def issue? (a : Announcement) : Option Issue := a.error?.map (issue a.entityId a.message)

end Announcement

/-- Home Assistant, with the counters of the manager. -/
structure IssueHome where
  home : Home
  manager : RepairManager := {}

inductive IssueEvent
  | home (e : HomeEvent)
  /-- The ledger calls `async_on_record`. -/
  | recorded (health : DeviceHealth) (record : DeliveryRecord)
  | announced (a : Announcement)

/-- What a step tells. -/
inductive IssueNotice
  | restarted
  | announced (a : Announcement)
deriving DecidableEq

section

/- `hashlib.sha1(template.encode()).hexdigest()[:12]`. -/
variable (digest : String → String)

/-- The id of an issue about a template. -/
def templateErrorId (template : String) : String := ISSUE_TEMPLATE_ERROR ++ "." ++ digest template

/-- `async_template_error`, with the id that it returns. -/
def IssueRegistry.asyncTemplateError (issues : IssueRegistry) (entityId template error : String)
    (resolved : Bool) : IssueRegistry × String :=
  let issueId := templateErrorId digest template
  (if resolved then issues.delete issueId
    else issues.create issueId (Announcement.issue entityId template error), issueId)

/-- The part of `async_announce` that is about the issue. -/
def IssueRegistry.asyncAnnounce (issues : IssueRegistry) (a : Announcement) : IssueRegistry :=
  match a.error? with
  | some err => (issues.asyncTemplateError digest a.entityId a.message err false).1
  | none => (issues.asyncTemplateError digest a.entityId a.message "" true).1

namespace IssueHome

/-- The registry of the issues. -/
def issues (S : IssueHome) : IssueRegistry := S.home.issues

/-- The registry is changed. -/
def withIssues (S : IssueHome) (issues : IssueRegistry) : IssueHome :=
  { S with home := { S.home with issues := issues } }

/-- An event of the home. Each set-up has a manager of its own, and `async_create_fix_flow` makes
flows for stale devices only. -/
def homeStep (S : IssueHome) (e : HomeEvent) : IssueHome :=
  match e with
  | .setUp =>
    match S.home.loaded with
    | some _ => S
    | none => { home := (S.home.step .setUp).1, manager := {} }
  | .confirm flow =>
    if startsWith flow.issueId (ISSUE_STALE_DEVICE ++ ".") then
      { S with home := (S.home.step (.confirm flow)).1 }
    else S
  | e => { S with home := (S.home.step e).1 }

/-- One event. Only an entry that is loaded has a manager and players. -/
def step (S : IssueHome) : IssueEvent → IssueHome × List IssueNotice
  | .home .restart => (S.homeStep .restart, [.restarted])
  | .home e => (S.homeStep e, [])
  | .recorded health record =>
    match S.home.loaded with
    | none => (S, [])
    | some _ =>
      let r := S.manager.asyncOnRecord S.issues health record
      ({ S.withIssues r.2 with manager := r.1 }, [])
  | .announced a =>
    match S.home.loaded with
    | none => (S, [])
    | some _ => (S.withIssues (S.issues.asyncAnnounce digest a), [.announced a])

/-! ## The issue of a digest -/

/-- The id of the issues with a digest. -/
def idOf (d : String) : String := ISSUE_TEMPLATE_ERROR ++ "." ++ d

/-- What a notice says of the issue with a digest. -/
def verdictOf (d : String) : IssueNotice → Option (Option Issue)
  | .restarted => some none
  | .announced a => if digest a.message = d then some a.issue? else none

/-- What the last notice about a digest says. -/
def verdict (d : String) (notices : List IssueNotice) : Option Issue :=
  (notices.filterMap (verdictOf digest d)).getLast?.join

theorem verdict_append (d : String) (notices later : List IssueNotice) :
    verdict digest d (notices ++ later) =
      (later.filterMap (verdictOf digest d)).getLast?.getD (verdict digest d notices) := by
  unfold verdict
  rw [List.filterMap_append, List.getLast?_append]
  cases (later.filterMap (verdictOf digest d)).getLast? <;> rfl

theorem verdict_concat (d : String) (notices : List IssueNotice) (notice : IssueNotice) :
    verdict digest d (notices ++ [notice]) =
      (verdictOf digest d notice).getD (verdict digest d notices) := by
  rw [verdict_append]
  cases h : verdictOf digest d notice <;> simp [h]

/-! ## Issues of other kinds -/

theorem idOf_inj {d d' : String} (h : idOf d = idOf d') : d = d' :=
  (String.append_right_inj _).mp h

/-- The ids of the other kinds differ in a character of their first seven. -/
theorem idOf_ne {d id : String} {k : ℕ} (hk : k < 7)
    (h : id.toList[k]? ≠ (ISSUE_TEMPLATE_ERROR ++ ".").toList[k]?) : idOf d ≠ id := by
  rintro rfl
  refine h ?_
  unfold idOf
  rw [String.toList_append]
  exact List.getElem?_append_left (hk.trans_le (by decide))

theorem idOf_ne_of_prefix {d base rest : String} {k : ℕ} (hk : k < 7)
    (hlen : 7 ≤ base.toList.length)
    (h : base.toList[k]? ≠ (ISSUE_TEMPLATE_ERROR ++ ".").toList[k]?) : idOf d ≠ base ++ rest := by
  refine idOf_ne hk ?_
  rwa [String.toList_append, List.getElem?_append_left (hk.trans_le hlen)]

theorem idOf_ne_fetchFailedId (d : String) (u : UUID) : idOf d ≠ fetchFailedId u := by
  unfold fetchFailedId
  exact idOf_ne_of_prefix (k := 4) (by decide) (by decide) (by decide)

theorem idOf_ne_unreachableId (d : String) (u : UUID) : idOf d ≠ unreachableId u := by
  unfold unreachableId
  exact idOf_ne_of_prefix (k := 0) (by decide) (by decide) (by decide)

theorem idOf_ne_groupSpansId (d : String) (u : UUID) : idOf d ≠ groupSpansId u := by
  unfold groupSpansId
  exact idOf_ne_of_prefix (k := 0) (by decide) (by decide) (by decide)

theorem idOf_ne_staleDeviceId (d deviceId : String) : idOf d ≠ staleDeviceId deviceId := by
  unfold staleDeviceId
  exact idOf_ne_of_prefix (k := 0) (by decide) (by decide) (by decide)

theorem idOf_ne_multihomed (d : String) : idOf d ≠ ISSUE_MULTIHOMED :=
  idOf_ne (k := 0) (by decide) (by decide)

theorem idOf_ne_issueId {d issueId : String}
    (h : startsWith issueId (ISSUE_STALE_DEVICE ++ ".") = true) : idOf d ≠ issueId := by
  obtain ⟨rest, hrest⟩ := List.isPrefixOf_iff_prefix.mp h
  refine idOf_ne (k := 0) (by decide) ?_
  rw [← hrest, List.getElem?_append_left (by decide)]
  decide

theorem get?_asyncOnRecord (manager : RepairManager) (issues : IssueRegistry)
    (health : DeviceHealth) (record : DeliveryRecord) (d : String) :
    (manager.asyncOnRecord issues health record).2.get? (idOf d) = issues.get? (idOf d) := by
  have hfetch := idOf_ne_fetchFailedId d health.uuid
  have hreach := idOf_ne_unreachableId d health.uuid
  unfold RepairManager.asyncOnRecord
  dsimp only
  split
  · dsimp only
    split
    · exact (Dict.get?_set _ _ _ _).trans (if_neg hfetch)
    · rfl
  · dsimp only
    split
    · exact (Dict.get?_set _ _ _ _).trans (if_neg hreach)
    · rfl
  · dsimp only [IssueRegistry.delete]
    rw [Dict.get?_erase, if_neg hreach, Dict.get?_erase, if_neg hfetch]
  all_goals rfl

theorem get?_asyncDeviceSeen (M : StaleTracking) (issues : IssueRegistry) (now : DateTime)
    (uuid : UUID) (d : String) :
    (M.asyncDeviceSeen issues now uuid).2.get? (idOf d) = issues.get? (idOf d) := by
  dsimp only [StaleTracking.asyncDeviceSeen, IssueRegistry.delete]
  rw [Dict.get?_foldl_erase, if_neg]
  intro hmem
  obtain ⟨entry, -, hid⟩ := List.mem_map.mp hmem
  exact idOf_ne_staleDeviceId d entry.1 hid.symm

/-- What happens to the devices and their groups leaves issues about templates alone. -/
theorem get?_homeStep (S : IssueHome) {e : HomeEvent} (he : e ≠ .restart) (d : String) :
    (S.homeStep e).issues.get? (idOf d) = S.issues.get? (idOf d) := by
  cases e with
  | discovered now info =>
    dsimp only [homeStep, Home.step, issues]
    split
    · exact get?_asyncDeviceSeen _ _ now _ d
    · rfl
  | removed uuid =>
    dsimp only [homeStep, Home.step, issues]
    split <;> rfl
  | refresh now reading =>
    dsimp only [homeStep, Home.step, issues]
    split
    · next s _ =>
      dsimp only [Home.refreshTopology]
      rw [StaleTracking.get?_asyncCheckStale_of_ne _ _ _ _ _ (idOf_ne_staleDeviceId d)]
      exact IssueRegistry.get?_asyncCheckTopology _ _ (idOf_ne_multihomed d)
        (idOf_ne_groupSpansId d)
    · rfl
  | devices registry => rfl
  | confirm flow =>
    dsimp only [homeStep]
    split
    · next hprefix => exact (Dict.get?_erase _ _ _).trans (if_neg (idOf_ne_issueId hprefix))
    · rfl
  | unload => rfl
  | setUp =>
    dsimp only [homeStep, issues]
    split
    · rfl
    · next hloaded =>
      dsimp only [Home.step]
      rw [hloaded]
  | restart => exact absurd rfl he

/-- An announcement settles the issue of its digest. -/
theorem get?_asyncAnnounce (issues : IssueRegistry) (a : Announcement) (d : String) :
    (issues.asyncAnnounce digest a).get? (idOf d) =
      if digest a.message = d then a.issue? else issues.get? (idOf d) := by
  have hid : idOf d = templateErrorId digest a.message ↔ digest a.message = d :=
    ⟨fun h => (idOf_inj h).symm, fun h => h ▸ rfl⟩
  unfold IssueRegistry.asyncAnnounce Announcement.issue?
  cases herror : a.error? with
  | some err =>
    dsimp only [IssueRegistry.asyncTemplateError, IssueRegistry.create]
    rw [if_neg (by decide), Dict.get?_set]
    by_cases h : digest a.message = d
    · rw [if_pos h, if_pos (hid.mpr h)]
      rfl
    · rw [if_neg h, if_neg (mt hid.mp h)]
  | none =>
    dsimp only [IssueRegistry.asyncTemplateError, IssueRegistry.delete]
    rw [if_pos rfl, Dict.get?_erase]
    by_cases h : digest a.message = d
    · rw [if_pos h, if_pos (hid.mpr h)]
      rfl
    · rw [if_neg h, if_neg (mt hid.mp h)]

theorem get?_step (S : IssueHome) (e : IssueEvent) (d : String) (notices : List IssueNotice)
    (h : S.issues.get? (idOf d) = verdict digest d notices) :
    (S.step digest e).1.issues.get? (idOf d)
      = verdict digest d (notices ++ (S.step digest e).2) := by
  cases e with
  | home e =>
    by_cases he : e = .restart
    · subst he
      exact (verdict_concat digest d notices .restarted).symm
    · have hstep : S.step digest (.home e) = (S.homeStep e, []) := by
        cases e with
        | restart => exact absurd rfl he
        | _ => rfl
      rw [hstep, List.append_nil]
      exact (get?_homeStep S he d).trans h
  | recorded health record =>
    dsimp only [step]
    split
    · rwa [List.append_nil]
    · rw [List.append_nil]
      exact (get?_asyncOnRecord ..).trans h
  | announced a =>
    dsimp only [step]
    split
    · rwa [List.append_nil]
    · rw [verdict_concat]
      refine (get?_asyncAnnounce digest S.issues a d).trans ?_
      dsimp only [verdictOf]
      split
      · rfl
      · exact h

/-- **Issues about templates.** What the registry holds for a template is the issue of the last
announcement with its digest since Home Assistant started, if that one failed to render. -/
theorem template_issue (registry : DeviceRegistry) (run : List IssueEvent) (template : String) :
    (Machine.final (step digest) { home := { registry := registry } } run).issues.get?
        (templateErrorId digest template) =
      verdict digest (digest template)
        (Machine.emitted (step digest) { home := { registry := registry } } run) :=
  Machine.history_induction (step digest)
    (P := fun _ S notices => S.issues.get? (idOf (digest template)) =
      verdict digest (digest template) notices) _ rfl
    (fun _ S notices e h => get?_step digest S e (digest template) notices h) run

end IssueHome
end
end CastDelivery
