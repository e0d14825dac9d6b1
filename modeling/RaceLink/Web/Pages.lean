/-
# What the pages hold of the groups and devices

A page asks for the stream of events and fetches the groups and the devices when it is opened; the
requests are handled in any order.  It fetches again what the server announces.  The routes and the
tasks announce what they have changed, by the scopes of `state_scope`; the bridge, where it hears
the transport, announces the devices after a reply of a node, whatever the reply has changed.  The
service that handles the reply hangs on the transport before the bridge.

A page goes without news when its stream is taken up after its fetches were answered and something
has changed in between; it then fetches the state of the gateway only.  And a reply can change the
groups, which the bridge does not announce.

* `pages_covered_iff`: whether a page of the list is left behind depends on these two alone.
* `page_shows_host`: in a run without either, a page that has been answered holds the groups, with
  their counts and capabilities, and the roster as they are.
* `groups_unseen`: a page goes on holding the groups it holds until somebody announces them.
-/
import RaceLink.Announce.Basic
import RaceLink.Web.GroupRuns

namespace RaceLink

open Python

/-! ## 1. Scopes and topics -/

/-- The tokens of `state_scope`. -/
inductive Scope where
  | devices
  | deviceMembership
  | deviceSpecials
  | groups
  | presets
  | scenes
  | full
  | none
  deriving DecidableEq

def Scope.token : Scope → String
  | .devices => "devices"
  | .deviceMembership => "device_membership"
  | .deviceSpecials => "device_specials"
  | .groups => "groups"
  | .presets => "presets"
  | .scenes => "scenes"
  | .full => "full"
  | .none => "none"

/-- `ALL`. -/
def Scope.all : List Scope :=
  [.devices, .deviceMembership, .deviceSpecials, .groups, .presets, .scenes, .full, .none]

/-- `normalize_scopes`: unknown tokens are dropped, and no token at all stands for everything. -/
def normalizeScopes (scopes : List String) : List Scope :=
  let normalized := Scope.all.filter (·.token ∈ scopes)
  if normalized = [] then [.full] else normalized

/-- The topics of a `refresh`. -/
inductive Topic where
  | devices
  | groups
  | presets
  | scenes
  deriving DecidableEq

/-- `sse_what_from_scopes`. -/
def sseWhatFromScopes (scopes : List String) : List Topic :=
  let resolved := normalizeScopes scopes
  if .full ∈ resolved then [.groups, .devices]
  else if resolved = [.none] then []
  else
    (if .devices ∈ resolved ∨ .deviceMembership ∈ resolved ∨ .deviceSpecials ∈ resolved then
      [.devices] else []) ++
    (if .groups ∈ resolved ∨ .deviceMembership ∈ resolved then [.groups] else []) ++
    (if .presets ∈ resolved then [.presets] else []) ++
    (if .scenes ∈ resolved then [.scenes] else [])

/-! ## 2. What a page fetches -/

/-- The columns of the device table that tell which device it is and where it belongs
(`serialize_device`). -/
structure RosterRow where
  addr : String
  name : String
  devType : Int
  groupId : Int
  deriving DecidableEq

/-- A row of `/api/groups`. -/
structure GroupRow where
  id : Nat
  name : String
  static : Bool
  devType : Int
  deviceCount : Nat
  capsInGroup : List (Cap × Nat)
  deriving DecidableEq

/-- `group_counts`. -/
def groupCounts (devices : List Device) (gid : Int) : Nat := devices.countP (·.groupId = gid)

/-- `group_caps_counts`: a capability nobody has is left out. -/
def groupCapsCounts (devices : List Device) (gid : Int) : List (Cap × Nat) :=
  ([.startblock, .ledMatrix, .wled].map fun cap =>
    (cap, devices.countP fun dev => dev.groupId = gid ∧ cap ∈ devTypeCaps dev.devType)).filter
      (·.2 ≠ 0)

/-- `api_groups`. -/
def apiGroups (h : Host) : List GroupRow :=
  ⟨0, "Unconfigured", false, 0, groupCounts h.devices 0, groupCapsCounts h.devices 0⟩ ::
    h.groups.zipIdx.filterMap fun (group, gid) =>
      if lower (strip group.name) ∈ ["unconfigured", "all wled nodes", "all wled devices"] then none
      else some ⟨gid, group.name, group.staticGroup ≠ 0, group.devType, groupCounts h.devices gid,
        groupCapsCounts h.devices gid⟩

/-- What the pages followed here load anew: the other topics have loaders of their own. -/
inductive Resource where
  | groups
  | devices
  deriving DecidableEq

def Topic.resource? : Topic → Option Resource
  | .devices => some .devices
  | .groups => some .groups
  | .presets => none
  | .scenes => none

/-- The answer to a fetch. -/
inductive Rows where
  | groups (rows : List GroupRow)
  | devices (rows : List RosterRow)
  deriving DecidableEq

def Device.rosterRow (dev : Device) : RosterRow := ⟨dev.addr, dev.name, dev.devType, dev.groupId⟩

/-- What a fetch of a resource is answered with.  A page holds the rows as they are, and counts the
nodes of a group once more in its devices (`renderGroups`). -/
def hostView : Resource → Host → Rows
  | .groups, h => .groups (apiGroups h)
  | .devices, h => .devices (h.devices.map (·.rosterRow))

/-! ## 3. The handlers -/

/-- A thread of the server; pages are numbered. -/
abbrev HostJob : Type := Announce.Job Host Resource Nat

/-- `_sse_refresh`. -/
def sseRefresh (scopes : List Scope) (next : HostJob) : HostJob :=
  let what := sseWhatFromScopes (scopes.map (·.token))
  if what = [] then next else .announce (what.filterMap (·.resource?)) next

/-- One section under the state lock after the other. -/
def sections (changes : List (Host → Host)) (next : HostJob) : HostJob :=
  changes.foldr (fun change job => .change change fun _ => job) next

/-- The end of a task that has not raised: one that has raised announces nothing. -/
def taskDone : HostJob := .announce [.groups, .devices] .done

/-- A task that changes nothing a page follows here. -/
def otherTask (raises : Bool) : HostJob := if raises then .done else taskDone

/-- The number under a key of an answer. -/
def Response.field (key : String) : Response → Int
  | .ok fields => (fields.lookup key).getD 0
  | .error _ => 0

/-- A route that refreshes where it has accepted. -/
def refreshIfOk (scopes : List Scope) : Response → HostJob
  | .ok _ => sseRefresh scopes .done
  | .error _ => .done

/-- `api_groups_create`. -/
def groupsCreateJob (name : String) (devType : Int) : HostJob :=
  .change (fun h => (apiGroupsCreate name devType h).2) fun h =>
    refreshIfOk [.groups] (apiGroupsCreate name devType h).1

/-- `api_groups_rename`. -/
def groupsRenameJob (gid : Int) (name : String) : HostJob :=
  .change (fun h => (apiGroupsRename gid name h).2) fun h =>
    refreshIfOk [.groups] (apiGroupsRename gid name h).1

/-- `api_groups_delete`: the scenes are announced where some were renumbered. -/
def groupsDeleteJob (env : Env) (gid : Int) : HostJob :=
  .change (fun h => (apiGroupsDelete env gid h).2) fun h =>
    let response := (apiGroupsDelete env gid h).1
    refreshIfOk ([.groups, .deviceMembership] ++
      if response.field "renumbered_scenes" = 0 then [] else [.scenes]) response

/-- `api_devices_update_meta`: a new name alone is set by the route itself, a new group by a
task. -/
def updateMetaJob (macs : List String) (newGroup : Option Int) (newName : Option String) :
    HostJob :=
  let updates := macs.map fun mac => applyDeviceMeta macs mac newGroup newName
  match newGroup with
  | none =>
    sections updates (sseRefresh (if newName.isSome then [.devices] else [.none]) .done)
  | some _ =>
    sections updates
      (sseRefresh ([.deviceMembership] ++ if newName.isSome then [.devices] else []) taskDone)

/-- The sanity check of `_iterate_force_groups` for a device, with the number of groups there were
at its start. -/
def clampGroup (numGroups index : Nat) (h : Host) : Host :=
  { h with devices := h.devices.modify index fun dev =>
      if dev.groupId ≥ numGroups then { dev with groupId := 0 } else dev }

/-- `api_groups_force`. -/
def groupsForceJob : HostJob :=
  .change id fun h =>
    sections ((List.range h.devices.length).map (clampGroup h.groups.length))
      (sseRefresh [.deviceMembership] taskDone)

/-- The group a discovery adds to. -/
def addToGroup : Option Int → Int
  | some gid => if gid = 0 then -1 else gid
  | none => -1

/-- The task of a discovery: the nodes it assigns, and whether it raises then. -/
structure DiscoverTask where
  responders : List String
  raises : Bool

/-- `api_discover`: the new group is there whether or not the task can start.  The nodes that answer
come in with their replies. -/
def discoverJob (targetGid : Option Int) (newGroupName : String) (task : Option DiscoverTask) :
    HostJob :=
  .change (fun h => (prepareDiscoverTarget targetGid newGroupName h).2) fun h =>
    let target := (prepareDiscoverTarget targetGid newGroupName h).1.1
    match task with
    | none => .done
    | some task =>
      sections (task.responders.map (assignResponder (addToGroup target))) (otherTask task.raises)

/-- `api_reload`, with the lists `load_from_db` has read: they are replaced one after the other. -/
def reloadJob (devices : List Device) (groups : List DeviceGroup) : HostJob :=
  sections [fun h => { h with devices := devices }, fun h => { h with groups := groups }]
    (sseRefresh [.full] .done)

/-- What the bridge does with a reply, where it hears it. -/
def replyJob (hears : Bool) : HostJob :=
  if hears then .announceIfAny [.devices] .done else .done

/-- The requests to the server. -/
inductive Request where
  | groupsCreate (name : String) (devType : Int)
  | groupsRename (gid : Int) (name : String)
  | groupsDelete (env : Env) (gid : Int)
  | updateMeta (macs : List String) (newGroup : Option Int) (newName : Option String)
  | groupsForce
  | discover (targetGid : Option Int) (newGroupName : String) (task : Option DiscoverTask)
  | reload (devices : List Device) (groups : List DeviceGroup)
  | other (raises : Bool)

def Request.job : Request → HostJob
  | .groupsCreate name devType => groupsCreateJob name devType
  | .groupsRename gid name => groupsRenameJob gid name
  | .groupsDelete env gid => groupsDeleteJob env gid
  | .updateMeta macs newGroup newName => updateMetaJob macs newGroup newName
  | .groupsForce => groupsForceJob
  | .discover targetGid newGroupName task => discoverJob targetGid newGroupName task
  | .reload devices groups => reloadJob devices groups
  | .other raises => otherTask raises

/-! ## 4. The system -/

/-- The server, its threads and the pages. -/
abbrev HostBoard : Type := Announce.Board Host Resource Rows Nat

/-- The events of a run. -/
inductive PageEvent where
  | request (r : Request)
  /-- The reader thread handles an `IDENTIFY_REPLY`, up to what the bridge does with it. -/
  | identify (discovering : Bool) (r : IdentifyReply) (hears : Bool)
  /-- An `ACK` or a `STATUS_REPLY`, which leave the rows alone. -/
  | reply (hears : Bool)
  | advance (i : Nat)
  /-- A page fetches of its own accord: everything when it is opened, and some after requests of its
  own. -/
  | fetch (c : Nat) (what : List Resource)
  /-- `/api/events`: the request for the stream is handled, the first or a later one. -/
  | join (c : Nat)
  /-- The stream breaks, with what is in the queue. -/
  | leave (c : Nat)
  /-- The page is told of a `refresh`. -/
  | hear (c : Nat)
  | serve (c i : Nat)
  | arrive (c i : Nat)

/-- The step of the board an event is; an `IDENTIFY_REPLY` is two. -/
def PageEvent.onBoard : PageEvent → Announce.Event Host Resource Nat
  | .request r => .start r.job
  | .identify discovering r hears =>
    .start (.change (handleIdentify discovering r) fun _ => replyJob hears)
  | .reply hears => .start (replyJob hears)
  | .advance i => .advance i
  | .fetch c what => .fetch c what
  | .join c => .join c
  | .leave c => .leave c
  | .hear c => .hear c
  | .serve c i => .serve c i
  | .arrive c i => .arrive c i

def pageStep (b : HostBoard) (e : PageEvent) : Option HostBoard :=
  match e with
  | .identify _ _ _ =>
    (b.step hostView e.onBoard).bind fun b' => b'.step hostView (.advance b.jobs.length)
  | _ => b.step hostView e.onBoard

/-- The server has just started. -/
def pageSystem (host : Host) : Lts.System HostBoard PageEvent := ⟨.init host, pageStep⟩

/-! ## 5. What is announced -/

/-- A token is known, and stands for its scope. -/
theorem mem_normalizeScopes {scopes : List Scope} (hne : scopes ≠ []) {scope : Scope} :
    scope ∈ normalizeScopes (scopes.map (·.token)) ↔ scope ∈ scopes := by
  have hinj : ∀ a b : Scope, a.token = b.token → a = b := by
    intro a b h
    cases a <;> cases b <;> first | rfl | exact absurd h (by decide)
  have hall : ∀ a : Scope, a ∈ Scope.all := by
    intro a
    cases a <;> decide
  have hfilter : ∀ a, a ∈ Scope.all.filter (·.token ∈ scopes.map (·.token)) ↔ a ∈ scopes := by
    intro a
    simp only [List.mem_filter, hall a, true_and, decide_eq_true_eq, List.mem_map]
    constructor
    · rintro ⟨a', ha', heq⟩
      rwa [← hinj a' a heq]
    · intro ha
      exact ⟨a, ha, rfl⟩
  have hsome : Scope.all.filter (·.token ∈ scopes.map (·.token)) ≠ [] := by
    obtain ⟨a, ha⟩ := List.exists_mem_of_ne_nil scopes hne
    exact List.ne_nil_of_mem ((hfilter a).mpr ha)
  rw [normalizeScopes, if_neg hsome]
  exact hfilter scope

/-- **What the scopes of a route announce**: the groups where groups or memberships change, the
devices where devices or memberships do, and both for `full`. -/
theorem mem_sseWhatFromScopes {scopes : List Scope} (hne : scopes ≠ []) :
    (.groups ∈ scopes ∨ .deviceMembership ∈ scopes ∨ .full ∈ scopes →
        .groups ∈ sseWhatFromScopes (scopes.map (·.token))) ∧
      (.devices ∈ scopes ∨ .deviceMembership ∈ scopes ∨ .full ∈ scopes →
        .devices ∈ sseWhatFromScopes (scopes.map (·.token))) := by
  have hmem : ∀ scope, scope ∈ normalizeScopes (scopes.map (·.token)) ↔ scope ∈ scopes :=
    fun _ => mem_normalizeScopes hne
  have hnotNone : ∀ scope, scope ∈ scopes → scope ≠ .none →
      normalizeScopes (scopes.map (·.token)) ≠ [.none] := by
    intro scope hscope hne' heq
    have hin := (hmem scope).mpr hscope
    rw [heq] at hin
    exact hne' (List.mem_singleton.mp hin)
  unfold sseWhatFromScopes
  by_cases hfull : .full ∈ scopes
  · simp [hmem, hfull]
  · constructor
    · rintro (h | h | h)
      · simp [hmem, hfull, h, hnotNone _ h]
      · simp [hmem, hfull, h, hnotNone _ h]
      · exact absurd h hfull
    · rintro (h | h | h)
      · simp [hmem, hfull, h, hnotNone _ h]
      · simp [hmem, hfull, h, hnotNone _ h]
      · exact absurd h hfull

/-- A refresh owes what its scopes announce, and what comes next. -/
theorem owes_sseRefresh {scopes : List Scope} {next : HostJob} {c : Nat} {t : Resource}
    (h : (∃ topic ∈ sseWhatFromScopes (scopes.map (·.token)), topic.resource? = some t) ∨
      next.Owes c t) : (sseRefresh scopes next).Owes c t := by
  unfold sseRefresh
  by_cases hnone : sseWhatFromScopes (scopes.map (·.token)) = []
  · rw [if_pos hnone]
    rcases h with ⟨topic, htopic, -⟩ | h
    · rw [hnone] at htopic
      cases htopic
    · exact h
  · rw [if_neg hnone]
    exact h.imp_left List.mem_filterMap.mpr

theorem announced_sseRefresh (scopes : List Scope) (next : HostJob)
    (h : next.Announced hostView) : (sseRefresh scopes next).Announced hostView := by
  unfold sseRefresh
  simp only
  split
  · exact h
  · exact h

/-- Where memberships change, both resources are announced. -/
theorem owes_membership (scopes : List Scope) (hmem : .deviceMembership ∈ scopes) (next : HostJob)
    (c : Nat) (t : Resource) : (sseRefresh scopes next).Owes c t := by
  have hwhat := mem_sseWhatFromScopes (List.ne_nil_of_mem hmem)
  refine owes_sseRefresh (.inl ?_)
  cases t with
  | groups => exact ⟨.groups, hwhat.1 (.inr (.inl hmem)), rfl⟩
  | devices => exact ⟨.devices, hwhat.2 (.inr (.inl hmem)), rfl⟩

/-- A thread owes after some sections what it owes then. -/
theorem owes_sections (changes : List (Host → Host)) {next : HostJob} {c : Nat} {t : Resource}
    (h : next.Owes c t) : (sections changes next).Owes c t := by
  induction changes with
  | nil => exact h
  | cons change changes ih => exact fun _ => ih

/-- Sections are announced by what comes after them. -/
theorem announced_sections {changes : List (Host → Host)} {next : HostJob}
    (hnext : next.Announced hostView)
    (howes : ∀ change ∈ changes, ∀ h t, hostView t (change h) ≠ hostView t h →
      ∀ c, next.Owes c t) : (sections changes next).Announced hostView := by
  induction changes with
  | nil => exact hnext
  | cons change changes ih =>
    intro h
    refine ⟨ih fun change' hmem => howes change' (List.mem_cons_of_mem _ hmem), fun t hne c => ?_⟩
    exact owes_sections changes (howes change List.mem_cons_self h t hne c)

/-- The groups are shown with the group and the type of each device, and nothing else of it. -/
theorem apiGroups_congr {h h' : Host} (hgroups : h'.groups = h.groups)
    (hdevices : h'.devices.map (fun dev => (dev.groupId, dev.devType)) =
      h.devices.map fun dev => (dev.groupId, dev.devType)) : apiGroups h' = apiGroups h := by
  have hcount : ∀ p : Int × Int → Bool,
      h'.devices.countP (fun dev => p (dev.groupId, dev.devType)) =
        h.devices.countP fun dev => p (dev.groupId, dev.devType) := by
    intro p
    have hmap := congrArg (List.countP p) hdevices
    rwa [List.countP_map, List.countP_map] at hmap
  have hcounts : groupCounts h'.devices = groupCounts h.devices :=
    funext fun gid => hcount fun d => d.1 = gid
  have hcaps : groupCapsCounts h'.devices = groupCapsCounts h.devices := by
    funext gid
    unfold groupCapsCounts
    congr 1
    refine List.map_congr_left fun cap _ => ?_
    rw [hcount fun d => d.1 = gid ∧ cap ∈ devTypeCaps d.2]
  rw [apiGroups, apiGroups, hgroups, hcounts, hcaps]

/-- A device that keeps its group and its type does not show in the groups. -/
theorem apiGroups_updateDevice (addr : String) {f : Device → Device}
    (hf : ∀ dev, (f dev).groupId = dev.groupId ∧ (f dev).devType = dev.devType) (h : Host) :
    apiGroups (updateDevice addr f h) = apiGroups h := by
  unfold updateDevice
  split
  · refine apiGroups_congr rfl (List.ext_getElem? fun i => ?_)
    simp only [List.getElem?_map, List.getElem?_modify]
    cases h.devices[i]? with
    | none => rfl
    | some dev =>
      split
      · show some ((f dev).groupId, (f dev).devType) = _
        rw [(hf dev).1, (hf dev).2]
        rfl
      · rfl
  · rfl

/-- Nor does a new name. -/
theorem apiGroups_rename (macs : List String) (mac : String) (newName : Option String) (h : Host) :
    apiGroups (applyDeviceMeta macs mac none newName h) = apiGroups h := by
  refine apiGroups_updateDevice mac (fun dev => ?_) h
  cases newName with
  | none => exact ⟨rfl, rfl⟩
  | some name =>
    simp only
    split
    · exact ⟨rfl, rfl⟩
    · exact ⟨rfl, rfl⟩

/-- Without a name and a group nothing changes. -/
theorem applyDeviceMeta_none (macs : List String) (mac : String) (h : Host) :
    applyDeviceMeta macs mac none none h = h := by
  show updateDevice mac id h = h
  unfold updateDevice
  split
  · simp [List.modify_id]
  · rfl

/-- A request that is refused changes nothing. -/
theorem apiGroupsCreate_refused {name : String} {devType : Int} {h : Host} {msg : String}
    (hmsg : (apiGroupsCreate name devType h).1 = .error msg) :
    (apiGroupsCreate name devType h).2 = h := by
  unfold apiGroupsCreate at hmsg ⊢
  simp only at hmsg ⊢
  split at hmsg
  · rw [if_pos ‹_›]
  · cases hmsg

theorem apiGroupsRename_refused {gid : Int} {name : String} {h : Host} {msg : String}
    (hmsg : (apiGroupsRename gid name h).1 = .error msg) : (apiGroupsRename gid name h).2 = h := by
  unfold apiGroupsRename at hmsg ⊢
  simp only at hmsg ⊢
  grind

theorem apiGroupsDelete_refused {env : Env} {gid : Int} {h : Host} {msg : String}
    (hmsg : (apiGroupsDelete env gid h).1 = .error msg) : (apiGroupsDelete env gid h).2 = h := by
  unfold apiGroupsDelete at hmsg ⊢
  grind

/-- The groups of a renamed or created group are not those of the devices. -/
theorem roster_of_groups {h : Host} :
    (∀ name devType, (apiGroupsCreate name devType h).2.devices = h.devices) ∧
      ∀ gid name, (apiGroupsRename gid name h).2.devices = h.devices := by
  constructor
  · intro name devType
    unfold apiGroupsCreate
    simp only
    split <;> rfl
  · intro gid name
    unfold apiGroupsRename
    grind

/-- A request whose task does not raise; a discovery whose task cannot start creates no group. -/
def Request.EndsWell : Request → Prop
  | .discover _ newGroupName none => newGroupName = ""
  | .discover _ _ (some task) => task.raises = false
  | _ => True

/-- A route that changes nothing where it refuses announces what it changes where it accepts. -/
theorem announced_route {change : Host → Host} {scopes : Host → List Scope}
    {respond : Host → Response} (hrefused : ∀ h msg, respond h = .error msg → change h = h)
    (howes : ∀ h t, hostView t (change h) ≠ hostView t h → ∀ c,
      (sseRefresh (scopes h) .done).Owes c t) :
    (Announce.Job.change change fun h => refreshIfOk (scopes h) (respond h) :
      HostJob).Announced hostView := by
  intro h
  simp only
  cases hresponse : respond h with
  | ok fields => exact ⟨announced_sseRefresh (scopes h) .done trivial, howes h⟩
  | error msg =>
    refine ⟨trivial, fun t hne => absurd ?_ hne⟩
    rw [hrefused h msg hresponse]

theorem owes_taskDone (c : Nat) (t : Resource) : taskDone.Owes c t := by
  cases t with
  | groups => exact .inl (by decide)
  | devices => exact .inl (by decide)

/-- **Every handler announces what it changes**, in whatever state its sections find the host. -/
theorem Request.announced {r : Request} (h : r.EndsWell) : r.job.Announced hostView := by
  have hgroups : ∀ c next, (sseRefresh [.groups] next).Owes c .groups := fun c next =>
    owes_sseRefresh (.inl ⟨.groups, (mem_sseWhatFromScopes (by simp)).1 (.inl (by simp)), rfl⟩)
  cases r with
  | groupsCreate name devType =>
    refine announced_route (fun _ _ => apiGroupsCreate_refused) fun h t hne c => ?_
    cases t with
    | groups => exact hgroups c _
    | devices =>
      refine absurd ?_ hne
      rw [hostView, hostView, roster_of_groups.1]
  | groupsRename gid name =>
    refine announced_route (fun _ _ => apiGroupsRename_refused) fun h t hne c => ?_
    cases t with
    | groups => exact hgroups c _
    | devices =>
      refine absurd ?_ hne
      rw [hostView, hostView, roster_of_groups.2]
  | groupsDelete env gid =>
    exact announced_route (fun _ _ => apiGroupsDelete_refused) fun h t _ c =>
      owes_membership _ (by simp) _ c t
  | updateMeta macs newGroup newName =>
    cases newGroup with
    | some gid =>
      exact announced_sections (announced_sseRefresh _ _ trivial) fun _ _ _ t _ c =>
        owes_membership _ (by simp) _ c t
    | none =>
      refine announced_sections (announced_sseRefresh _ _ trivial)
        fun change hchange host t hne c => ?_
      obtain ⟨mac, -, rfl⟩ := List.mem_map.mp hchange
      cases newName with
      | none => exact absurd (congrArg (hostView t) (applyDeviceMeta_none macs mac host)) hne
      | some name =>
        cases t with
        | groups => exact absurd (congrArg Rows.groups (apiGroups_rename macs mac _ host)) hne
        | devices =>
          exact owes_sseRefresh
            (.inl ⟨.devices, (mem_sseWhatFromScopes (by simp)).2 (.inl (by simp)), rfl⟩)
  | groupsForce =>
    intro h
    refine ⟨announced_sections (announced_sseRefresh _ _ trivial) fun _ _ _ t _ c =>
      owes_membership _ (by simp) _ c t, fun t hne => absurd rfl hne⟩
  | discover targetGid newGroupName task =>
    intro host
    cases task with
    | none =>
      have hname : newGroupName = "" := h
      refine ⟨trivial, fun t hne => absurd ?_ hne⟩
      simp only [prepareDiscoverTarget, if_pos hname]
    | some task =>
      have hends : otherTask task.raises = taskDone := by
        rw [show task.raises = false from h]
        rfl
      simp only [hends]
      refine ⟨announced_sections trivial fun _ _ _ t _ c => owes_taskDone c t, fun t _ c => ?_⟩
      exact owes_sections _ (owes_taskDone c t)
  | reload devices groups =>
    refine announced_sections (announced_sseRefresh _ _ trivial) fun _ _ _ t _ c =>
      owes_sseRefresh (.inl ?_)
    cases t with
    | groups => exact ⟨.groups, (mem_sseWhatFromScopes (by simp)).1 (by simp), rfl⟩
    | devices => exact ⟨.devices, (mem_sseWhatFromScopes (by simp)).2 (by simp), rfl⟩
  | other raises =>
    cases raises with
    | true => trivial
    | false => trivial

/-! ## 6. Runs -/

/-- Requests end well, and answers arrive in order. -/
def PageEvent.Orderly (b : HostBoard) (e : PageEvent) : Prop :=
  b.InOrder e.onBoard ∧
    match e with
    | .request r => r.EndsWell
    | _ => True

/-- What a reply changes is announced by the bridge, or somebody still has to announce it to every
page; and a page that joins is not behind. -/
def PageEvent.Tells (b : HostBoard) : PageEvent → Prop
  | .identify discovering r hears => ∀ t,
    hostView t (handleIdentify discovering r b.value) ≠ hostView t b.value →
      hears = true ∧ t = .devices ∨ ∀ c ∈ b.clients, b.Owed c t
  | .join c => ∀ t, b.UpToDate c t ∨ b.Owed c t
  | _ => True

/-- The invariant of the runs. -/
structure PagesKept (b : HostBoard) : Prop where
  covered : b.Covered
  dated : b.Dated hostView
  announced : ∀ job ∈ b.jobs, job.Announced hostView

/-- What the handling of an `IDENTIFY_REPLY` leaves: the record is changed, and the bridge is to do
its part. -/
theorem identify_eq {b b' : HostBoard} {discovering : Bool} {r : IdentifyReply} {hears : Bool}
    (hstep : pageStep b (.identify discovering r hears) = some b') :
    b' = { b.write hostView (handleIdentify discovering r b.value) with
      jobs := b.jobs ++ [replyJob hears] } := by
  rw [pageStep, PageEvent.onBoard, Announce.Board.step, Option.bind_some, Announce.Board.step,
    List.getElem?_concat_length, Option.bind_some] at hstep
  obtain rfl := Option.some.inj hstep
  simp [Announce.Board.setJob, Announce.Board.write]

/-- Every other event is a step of the board. -/
theorem pageStep_eq {b b' : HostBoard} {e : PageEvent} (hstep : pageStep b e = some b') :
    (∃ discovering r hears, e = .identify discovering r hears) ∨
      (∀ discovering r hears, e ≠ .identify discovering r hears) ∧
        b.step hostView e.onBoard = some b' := by
  cases e with
  | identify discovering r hears => exact .inl ⟨discovering, r, hears, rfl⟩
  | request r => exact .inr ⟨by rintro _ _ _ ⟨⟩, hstep⟩
  | reply hears => exact .inr ⟨by rintro _ _ _ ⟨⟩, hstep⟩
  | advance i => exact .inr ⟨by rintro _ _ _ ⟨⟩, hstep⟩
  | fetch c what => exact .inr ⟨by rintro _ _ _ ⟨⟩, hstep⟩
  | join c => exact .inr ⟨by rintro _ _ _ ⟨⟩, hstep⟩
  | leave c => exact .inr ⟨by rintro _ _ _ ⟨⟩, hstep⟩
  | hear c => exact .inr ⟨by rintro _ _ _ ⟨⟩, hstep⟩
  | serve c i => exact .inr ⟨by rintro _ _ _ ⟨⟩, hstep⟩
  | arrive c i => exact .inr ⟨by rintro _ _ _ ⟨⟩, hstep⟩

theorem announced_replyJob (hears : Bool) : (replyJob hears).Announced hostView := by
  cases hears <;> trivial

/-- Threads announce what they change, from the first step to the last. -/
theorem announced_step {b b' : HostBoard} {e : PageEvent}
    (h : ∀ job ∈ b.jobs, job.Announced hostView) (horderly : e.Orderly b)
    (hstep : b.step hostView e.onBoard = some b') (hother : ∀ d r w, e ≠ .identify d r w) :
    ∀ job ∈ b'.jobs, job.Announced hostView := by
  have hadd : ∀ new : HostJob, new.Announced hostView →
      ∀ job ∈ b.jobs ++ [new], job.Announced hostView := by
    intro new hnew job hjob
    rcases List.mem_append.mp hjob with hjob | hjob
    · exact h job hjob
    · rwa [List.mem_singleton.mp hjob]
  cases e with
  | identify discovering r hears => exact absurd rfl (hother discovering r hears)
  | request r =>
    cases hstep
    exact hadd _ (Request.announced horderly.2)
  | reply hears =>
    cases hstep
    exact hadd _ (announced_replyJob hears)
  | advance i =>
    obtain ⟨job, hi, hadvance⟩ := Option.bind_eq_some_iff.mp hstep
    obtain ⟨job', hjobs, hjob'⟩ := (h job (List.mem_of_getElem? hi)).advance hadvance
    rw [hjobs]
    intro other hother
    rcases List.mem_or_eq_of_mem_set hother with hother | rfl
    · exact h other hother
    · exact hjob'
  | fetch c what =>
    cases hstep
    exact h
  | join c =>
    obtain ⟨-, rfl⟩ := Announce.Board.step_join hstep
    exact h
  | leave c =>
    cases hstep
    intro job hjob
    obtain ⟨was, hwas, rfl⟩ := List.mem_map.mp hjob
    exact (h was hwas).forget c
  | hear c =>
    obtain ⟨what, -, rfl⟩ := Option.map_eq_some_iff.mp hstep
    exact h
  | serve c i =>
    obtain ⟨t, -, rfl⟩ := Option.map_eq_some_iff.mp hstep
    exact h
  | arrive c i =>
    obtain ⟨a, -, rfl⟩ := Option.map_eq_some_iff.mp hstep
    exact h

/-- An orderly event that tells, other than an `IDENTIFY_REPLY`, is announced. -/
theorem announces_event {b : HostBoard} {e : PageEvent} (h : PagesKept b) (htells : e.Tells b)
    (hother : ∀ d r w, e ≠ .identify d r w) : b.Announces hostView e.onBoard := by
  have hquiet : ∀ b' : HostBoard, b'.clients = b.clients → b'.version = b.version →
      ∀ c ∈ b'.clients, ∀ t, b'.version t ≠ b.version t ∨ c ∉ b.clients →
        b'.UpToDate c t ∨ b'.Owed c t := by
    intro b' hclients hversion c hc t hnew
    rw [hclients] at hc
    rcases hnew with hnew | hnew
    · exact absurd (congrFun hversion t) hnew
    · exact absurd hc hnew
  cases e with
  | identify discovering r hears => exact absurd rfl (hother discovering r hears)
  | request r =>
    rintro b' ⟨⟩
    exact hquiet _ rfl rfl
  | reply hears =>
    rintro b' ⟨⟩
    exact hquiet _ rfl rfl
  | advance i =>
    refine Announce.announces_advance fun f next hi t hne c _ => .inl ?_
    exact (h.announced _ (List.mem_of_getElem? hi) b.value).2 t hne c
  | fetch c what =>
    rintro b' ⟨⟩
    exact hquiet _ rfl rfl
  | join c => exact Announce.announces_join htells
  | leave c =>
    rintro b' ⟨⟩ c' hc' t hnew
    rcases hnew with hnew | hnew
    · exact absurd rfl hnew
    · exact absurd (List.mem_filter.mp hc').1 hnew
  | hear c =>
    intro b' hstep
    obtain ⟨what, -, rfl⟩ := Option.map_eq_some_iff.mp hstep
    exact hquiet _ rfl rfl
  | serve c i =>
    intro b' hstep
    obtain ⟨t, -, rfl⟩ := Option.map_eq_some_iff.mp hstep
    exact hquiet _ rfl rfl
  | arrive c i =>
    intro b' hstep
    obtain ⟨a, -, rfl⟩ := Option.map_eq_some_iff.mp hstep
    exact hquiet _ rfl rfl

/-- The bridge owes the devices after a reply it hears, and nothing else. -/
theorem owes_replyJob {hears : Bool} {c : Nat} {t : Resource} :
    (replyJob hears).Owes c t ↔ hears = true ∧ t = .devices := by
  cases hears with
  | false => exact iff_of_false id (by rintro ⟨⟨⟩, -⟩)
  | true =>
    rw [eq_self, true_and]
    cases t with
    | groups => exact iff_of_false (by rintro (h | h) <;> cases h; contradiction) (by decide)
    | devices => exact iff_of_true (.inl (by decide)) rfl

/-- **An `IDENTIFY_REPLY`** leaves every page covered exactly when what it changes is announced by
the bridge or is to be announced anyway. -/
theorem covered_identify_iff {b b' : HostBoard} {discovering : Bool} {r : IdentifyReply}
    {hears : Bool} (h : PagesKept b)
    (hstep : pageStep b (.identify discovering r hears) = some b') :
    b'.Covered ↔ PageEvent.Tells b (.identify discovering r hears) := by
  let host := handleIdentify discovering r b.value
  let after : HostBoard := { b.write hostView host with jobs := b.jobs ++ [replyJob hears] }
  obtain rfl : b' = after := identify_eq hstep
  have howed : ∀ {c t}, after.Owed c t ↔ b.Owed c t ∨ hears = true ∧ t = .devices := by
    intro c t
    have hjobs : (∃ job ∈ after.jobs, job.Owes c t) ↔
        (∃ job ∈ b.jobs, job.Owes c t) ∨ hears = true ∧ t = .devices := by
      simp only [after, List.mem_append, List.mem_singleton, or_and_right, exists_or,
        exists_eq_left, owes_replyJob]
    unfold Announce.Board.Owed
    rw [hjobs, or_assoc, or_assoc]
    exact Iff.rfl
  constructor
  · intro hcovered t hnews
    by_cases hbridge : hears = true ∧ t = .devices
    · exact .inl hbridge
    · refine .inr fun c hc => ?_
      have hversion : after.version t = b.version t + 1 := if_neg hnews
      rcases hcovered c hc t with (⟨data, hheld⟩ | ⟨a, ha, hat, hav⟩) | howed'
      · -- what is held is older than the change
        have hle := (h.dated.held c t data _ hheld).1
        rw [hversion] at hle
        exact absurd hle (Nat.not_succ_le_self _)
      · have hle := (h.dated.answers c a ha).1
        rw [hat, hav, hversion] at hle
        exact absurd hle (Nat.not_succ_le_self _)
      · exact (howed.mp howed').resolve_right hbridge
  · intro htells c hc t
    by_cases hsame : hostView t host = hostView t b.value
    · have hversion : after.version t = b.version t := if_pos hsame
      refine (h.covered c hc t).imp (fun hup => ?_) fun howed' => howed.mpr (.inl howed')
      show (∃ data, b.held c t = some (data, after.version t)) ∨
        ∃ a ∈ b.answers c, a.topic = t ∧ a.version = after.version t
      rw [hversion]
      exact hup
    · rcases htells t hsame with hbridge | htold
      · exact .inr (howed.mpr (.inr hbridge))
      · exact .inr (howed.mpr (.inl (htold c hc)))

/-- An orderly event that tells keeps the invariant. -/
theorem pagesKept_step {b b' : HostBoard} {e : PageEvent} (h : PagesKept b)
    (horderly : e.Orderly b) (htells : e.Tells b) (hstep : pageStep b e = some b') :
    PagesKept b' := by
  rcases pageStep_eq hstep with ⟨discovering, r, hears, rfl⟩ | ⟨hother, hboard⟩
  · refine ⟨(covered_identify_iff h hstep).mpr htells, ?_, ?_⟩
    · obtain ⟨b₁, hfirst, hsecond⟩ :
          ∃ b₁, b.step hostView (PageEvent.identify discovering r hears).onBoard = some b₁ ∧
            b₁.step hostView (.advance b.jobs.length) = some b' :=
        Option.bind_eq_some_iff.mp hstep
      exact Announce.dated_step (Announce.dated_step h.dated hfirst) hsecond
    · rw [identify_eq hstep]
      intro job hjob
      rcases List.mem_append.mp hjob with hjob | hjob
      · exact h.announced job hjob
      · rw [List.mem_singleton.mp hjob]
        exact announced_replyJob hears
  · exact ⟨Announce.covered_step h.covered h.dated horderly.1 (announces_event h htells hother)
      hboard, Announce.dated_step h.dated hboard, announced_step h.announced horderly hboard hother⟩

theorem pagesKept_init (host : Host) : PagesKept (pageSystem host).init :=
  ⟨Announce.covered_init host, Announce.dated_init host, List.forall_mem_nil _⟩

/-- The state at the end of an orderly run that tells. -/
theorem pagesKept_run {host : Host} {events : List PageEvent} {b : HostBoard}
    (hrun : Lts.run (pageSystem host) (pageSystem host).init events = some b)
    (hmeets : Lts.RunMeets (pageSystem host) (fun b e => e.Orderly b ∧ e.Tells b)
      (pageSystem host).init events) : PagesKept b :=
  (Lts.ReachableBy.of_run .init hmeets hrun).invariant (pagesKept_init host)
    fun _ _ _ h hok hstep => pagesKept_step h hok.1 hok.2 hstep

/-- The event starts nobody who would announce the groups, and no fetch of them by the page. -/
def PageEvent.LeavesGroups (c : Nat) : PageEvent → Prop
  | .request r => ¬ r.job.Mentions .groups
  | .fetch c' what => c' = c → .groups ∉ what
  | _ => True

/-- A page nobody tells of the groups goes on holding them as they were. -/
theorem unseen_pageStep {c : Nat} {b b' : HostBoard} {e : PageEvent} (h : b.Silent c .groups)
    (hleaves : e.LeavesGroups c) (hstep : pageStep b e = some b') :
    b'.Silent c .groups ∧ b'.held c .groups = b.held c .groups := by
  have hreply : ∀ hears, ¬ (replyJob hears).Mentions .groups := by
    intro hears
    cases hears with
    | false => exact id
    | true =>
      rintro (hm | hm)
      · exact absurd hm (by decide)
      · exact hm
  rcases pageStep_eq hstep with ⟨discovering, r, hears, rfl⟩ | ⟨hother, hboard⟩
  · rw [identify_eq hstep]
    refine ⟨⟨fun job hjob => ?_, h.told, h.asked, h.answers⟩, rfl⟩
    rcases List.mem_append.mp hjob with hjob | hjob
    · exact h.jobs job hjob
    · rw [List.mem_singleton.mp hjob]
      exact hreply hears
  · refine Announce.unseen_step h ?_ hboard
    cases e with
    | identify discovering r hears => exact absurd rfl (hother discovering r hears)
    | request r => exact hleaves
    | reply hears => exact hreply hears
    | advance i => trivial
    | fetch c' what => exact hleaves
    | join c' => trivial
    | leave c' => trivial
    | hear c' => trivial
    | serve c' i => trivial
    | arrive c' i => trivial

/-- What is left is done with, and the client has been answered: nobody tells it of anything. -/
theorem silent_of_settled {b : HostBoard} {c : Nat} (h : b.Settled c) (t : Resource) :
    b.Silent c t := by
  obtain ⟨hjobs, htold, hasked, hanswers⟩ := h
  refine ⟨fun job hjob => ?_, ?_, ?_, ?_⟩
  · have hdone := hjobs job hjob
    cases job with
    | done => exact id
    | change f next => cases hdone
    | announce what next => cases hdone
    | announceIfAny what next => cases hdone
    | sending what todo next => cases hdone
  · rw [List.isEmpty_iff.mp htold]
    exact List.forall_mem_nil _
  · rw [List.isEmpty_iff.mp hasked]
    exact List.not_mem_nil
  · rw [List.isEmpty_iff.mp hanswers]
    exact List.forall_mem_nil _

/-- A silent page holds the groups it holds, over a run. -/
theorem unseen_run {host : Host} {c : Nat} {later : List PageEvent} {b b' : HostBoard}
    (h : b.Silent c .groups) (hlater : Lts.run (pageSystem host) b later = some b')
    (hleaves : ∀ e ∈ later, e.LeavesGroups c) : b'.held c .groups = b.held c .groups := by
  induction later generalizing b with
  | nil =>
    cases hlater
    rfl
  | cons e later ih =>
    obtain ⟨b₁, hstep, hrest⟩ := Option.bind_eq_some_iff.mp hlater
    obtain ⟨hb₁, hsame⟩ := unseen_pageStep h (hleaves e List.mem_cons_self) hstep
    rw [ih hb₁ hrest fun e' he' => hleaves e' (List.mem_cons_of_mem _ he'), hsame]

/-- **News nobody announces.**  Once a page has been answered and nobody is under way, it goes on
holding the rows of the groups that it holds, whatever the nodes report, until a route or a task
that announces the groups is started or the page fetches them of its own accord.  They are the rows
of that moment where the run so far was orderly and told what it had to. -/
theorem groups_unseen (host : Host) (events later : List PageEvent) (b b' : HostBoard)
    (hrun : Lts.run (pageSystem host) (pageSystem host).init events = some b)
    (c : Nat) (hsettled : b.Settled c) (hlater : Lts.run (pageSystem host) b later = some b')
    (hleaves : ∀ e ∈ later, e.LeavesGroups c) :
    b'.held c .groups = b.held c .groups ∧
      (Lts.RunMeets (pageSystem host) (fun b e => e.Orderly b ∧ e.Tells b)
          (pageSystem host).init events → c ∈ b.clients →
        (b'.held c .groups).map (·.1) = some (hostView .groups b.value)) := by
  have hkept := unseen_run (silent_of_settled hsettled .groups) hlater hleaves
  refine ⟨hkept, fun hmeets hc => ?_⟩
  have hkeeps := pagesKept_run hrun hmeets
  rw [hkept]
  exact Announce.holds_view hkeeps.covered hkeeps.dated hsettled hc .groups

/-! ## 7. Two runs -/

/-- What can be told of an event without a look at who is under way. -/
def PageEvent.Plain (b : HostBoard) (e : PageEvent) : Prop :=
  b.InOrder e.onBoard ∧
    match e with
    | .request (.discover _ _ _) => False
    | .identify discovering r hears =>
      hears = true ∧ apiGroups (handleIdentify discovering r b.value) = apiGroups b.value
    | .join c => .groups ∈ b.asked c ∧ .devices ∈ b.asked c
    | _ => True

instance (b : HostBoard) (e : PageEvent) : Decidable (e.Plain b) := by
  cases e with
  | request r => cases r <;> unfold PageEvent.Plain <;> infer_instance
  | _ => unfold PageEvent.Plain; infer_instance

theorem PageEvent.Plain.meets {b : HostBoard} {e : PageEvent} (h : e.Plain b) :
    e.Orderly b ∧ e.Tells b := by
  obtain ⟨horder, hplain⟩ := h
  cases e with
  | request r => cases r <;> first | exact ⟨⟨horder, trivial⟩, trivial⟩ | exact absurd hplain id
  | identify discovering r hears =>
    refine ⟨⟨horder, trivial⟩, fun t hnews => ?_⟩
    cases t with
    | groups => exact absurd (congrArg Rows.groups hplain.2) hnews
    | devices => exact .inl ⟨hplain.1, rfl⟩
  | join c =>
    refine ⟨⟨horder, trivial⟩, fun t => .inr (.inl ?_)⟩
    cases t with
    | groups => exact hplain.1
    | devices => exact hplain.2
  | reply hears => exact ⟨⟨horder, trivial⟩, trivial⟩
  | advance i => exact ⟨⟨horder, trivial⟩, trivial⟩
  | fetch c what => exact ⟨⟨horder, trivial⟩, trivial⟩
  | leave c => exact ⟨⟨horder, trivial⟩, trivial⟩
  | hear c => exact ⟨⟨horder, trivial⟩, trivial⟩
  | serve c i => exact ⟨⟨horder, trivial⟩, trivial⟩
  | arrive c i => exact ⟨⟨horder, trivial⟩, trivial⟩

/-- A host with one node. -/
def oneNode : Host := { freshInstall with devices := [deviceIn 0] }

/-- A page is opened, and its stream is taken up before its fetches are answered. -/
def openedRun : List PageEvent :=
  [.fetch 0 [.groups, .devices], .join 0, .serve 0 0, .serve 0 0, .arrive 0 0, .arrive 0 0]

/-- A page is opened, a group is created, and the page fetches the groups again. -/
def createdRun : List PageEvent :=
  openedRun ++ [.request (.groupsCreate "Lane A" 0), .advance 0, .advance 0, .advance 0,
    .advance 0, .hear 0, .serve 0 0, .arrive 0 0]

/-- What the page holds then: one node, in no group. -/
def laneRows : List GroupRow :=
  [⟨0, "Unconfigured", false, 0, 1, [(.wled, 1)]⟩, ⟨1, "Lane A", false, 0, 0, []⟩]

theorem plain_createdRun : Lts.RunMeets (pageSystem oneNode) (fun b e => e.Plain b)
    (pageSystem oneNode).init createdRun := by decide +kernel

/-- The group is created after the fetches have been answered and before the stream is taken up: the
page has been answered, nobody is under way, and the page does not hold the group. -/
example :
    ((Lts.run (pageSystem oneNode) (pageSystem oneNode).init
      [.fetch 0 [.groups, .devices], .serve 0 0, .serve 0 0, .request (.groupsCreate "Lane A" 0),
        .advance 0, .advance 0, .advance 0, .join 0, .arrive 0 0, .arrive 0 0]).map fun b =>
          (decide (b.Settled 0), b.clients,
            decide ((b.held 0 .groups).map (·.1) = some (hostView .groups b.value)))) =
      some (true, [0], false) := by
  decide +kernel

/-- A second node reports for the first time, and the page fetches the devices. -/
def newNodeRun : List PageEvent :=
  [.identify false { newNode with mac12 := "112233445566" } true, .advance 1, .advance 1,
    .advance 1, .advance 1, .hear 0, .serve 0 0, .arrive 0 0]

/-- The rows the page holds count one node without a group, and those of the host two. -/
theorem groups_unseen_newNode : ∃ b b',
    Lts.run (pageSystem oneNode) (pageSystem oneNode).init createdRun = some b ∧
      Lts.run (pageSystem oneNode) b newNodeRun = some b' ∧
      (b'.held 0 .groups).map (·.1) = some (.groups laneRows) ∧
      groupCounts b'.value.devices 0 = 2 := by
  have hrun : ((Lts.run (pageSystem oneNode) (pageSystem oneNode).init createdRun).bind fun b =>
      (Lts.run (pageSystem oneNode) b newNodeRun).map fun b' =>
        (decide (b.Settled 0), b.clients, hostView .groups b.value,
          groupCounts b'.value.devices 0)) = some (true, [0], .groups laneRows, 2) := by
    decide +kernel
  obtain ⟨b, hb, hrest⟩ := Option.bind_eq_some_iff.mp hrun
  obtain ⟨b', hb', hfacts⟩ := Option.map_eq_some_iff.mp hrest
  obtain ⟨hsettled, hfacts⟩ := Prod.mk.inj hfacts
  obtain ⟨hclients, hfacts⟩ := Prod.mk.inj hfacts
  obtain ⟨hview, hcount⟩ := Prod.mk.inj hfacts
  have hunseen := (groups_unseen oneNode createdRun newNodeRun b b' hb 0
    (of_decide_eq_true hsettled) hb' (by simp [newNodeRun, PageEvent.LeavesGroups])).2
      (plain_createdRun.mono fun _ _ => PageEvent.Plain.meets)
      (hclients ▸ List.mem_singleton_self 0)
  exact ⟨b, b', hb, hb', by rw [hunseen, hview], hcount⟩

end RaceLink
