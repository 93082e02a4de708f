import Nexplane.ConnectorService
import Nexplane.DriftNormalization
import Nexplane.NotificationRouting

set_option autoImplicit false

/-! The preview of the routing rules on a payload of JSON values, against their evaluation for the
change request itself. -/

namespace Nexplane
open PyValue

section Preview

variable (printable : Char → Bool)

/-- `str(getattr(cr, key, "") or "")` of an object with the payload's attributes. -/
def payloadText (payload : Dict) (key : String) : String :=
  pyStr printable ((payload.getD key (.str "")).orElse (.str ""))

/-- `all(cr_tags.get(k) == v for k, v in tags)`, read only if there are tags. -/
def payloadHasTags (payload : Dict) (tags : List (String × String)) : Except Exc Bool :=
  if tags = [] then .ok true
  else
    match (payload.getD "asset_tags" .null).orElse (.obj []) with
    | .obj d => .ok (tags.all fun (k,v) => (Dict.getD d k .null).isStr v)
    | _ => .error .attributeError

def payloadMatches (payload : Dict) (rule : NotificationRoutingRule) : Except Exc Bool := do
  if !allows rule.matchCrTypes (payloadText printable payload "change_type") then return false
  if !allows rule.matchSeverities (payloadText printable payload "severity") then return false
  if !(← payloadHasTags payload (rule.matchAssetTags.getD [])) then return false
  if !allows rule.matchConnectorTypes (payloadText printable payload "connector_type") then
    return false
  return allows rule.matchStatus (payloadText printable payload "status")

/-- The users of the payload's organization with one of the roles; an id that the column does not
take fails the query. -/
def RoutingStore.payloadMembers (s : RoutingStore) (payload : Dict) (roleIds : List String) :
    Except Exc (List String) :=
  let organizationId := payload.getD "organization_id" .null
  if roleIds = [] ∨ organizationId.truthy = false then .ok []
  else
    match organizationId with
    | .str text =>
      match parseUuid text with
      | .ok id => s.roleMembers id roleIds
      | .error _ => .error (.other "DBAPIError")
    | _ => .error (.other "DBAPIError")

def RoutingStore.applyToPayload (s : RoutingStore) (payload : Dict) (acc : RoutingResult)
    (rule : NotificationRoutingRule) : Except Exc RoutingResult := do
  let members ← s.payloadMembers payload (rule.notifyRoleIds.getD [])
  return {
    userIds := acc.userIds ∪ rule.notifyUserIds.getD [] ∪ members
    channels := (rule.notifyChannels.getD []).foldl addChannel acc.channels
    suppressDefault := acc.suppressDefault || rule.suppressDefault
    matchedRules := acc.matchedRules ++ [rule.name] }

def previewRoutingRules (q : PriorityOrder) (s : RoutingStore) (payload : Dict) :
    Except Exc RoutingResult :=
  (q.orderBy (s.rules.filter fun rule => rule.enabled)).foldlM
    (fun acc rule => do
      let fires ← payloadMatches printable payload rule
      if fires then s.applyToPayload payload acc rule else pure acc) {}

end Preview

/-- The fields of a change request as JSON values. -/
def ChangeRequest.payload (cr : ChangeRequest) : Dict :=
  [("id",.str cr.id),("organization_id",.str cr.organizationId),
    ("requester_id",.str cr.requesterId),("change_type",.str cr.changeType.value),
    ("target_asset_ids",.arr (cr.targetAssetIds.map .str)),
    ("desired_outcome",.obj cr.desiredOutcome),("status",.str cr.status.value)]

/-- The change request with the texts of its JSON values. -/
def ChangeRequest.plain (cr : ChangeRequest) : RoutedChange :=
  { cr.routed with changeType := cr.changeType.value, status := cr.status.value }

/-- The conditions other than those on type and status, which no change request has anything
for. -/
structure NotificationRoutingRule.OpenOtherwise (rule : NotificationRoutingRule) : Prop where
  severities : allows rule.matchSeverities "" = true
  tags : rule.matchAssetTags.getD [] = []
  connectors : allows rule.matchConnectorTypes "" = true

/-- Type and status meet the rule as member names exactly if they do as values. -/
def NotificationRoutingRule.ReadsAlike (rule : NotificationRoutingRule) (cr : ChangeRequest) :
    Prop :=
  (allows rule.matchCrTypes cr.changeType.str ∧ allows rule.matchStatus cr.status.str) ↔
    (allows rule.matchCrTypes cr.changeType.value ∧ allows rule.matchStatus cr.status.value)

/-- No enabled rule that is open otherwise tells the member names from the values. -/
def RoutingStore.ReadsAlike (s : RoutingStore) (cr : ChangeRequest) : Prop :=
  ∀ rule ∈ s.rules, rule.enabled = true → rule.OpenOtherwise → rule.ReadsAlike cr

section Agreement

variable {printable : Char → Bool} {q : PriorityOrder} {s : RoutingStore} {cr : ChangeRequest}
  {rule : NotificationRoutingRule} {acc r r' : RoutingResult}

theorem text_orElse (text : String) :
    pyStr printable ((Json.str text).orElse (.str "")) = text := by
  by_cases h : text = ""
  · subst h
    rfl
  · have htruthy : (Json.str text).truthy = true := by simpa [Json.truthy] using h
    rw [Json.orElse,if_pos htruthy]
    rfl

theorem payloadText_type : payloadText printable cr.payload "change_type" = cr.changeType.value :=
  text_orElse _

theorem payloadText_status : payloadText printable cr.payload "status" = cr.status.value :=
  text_orElse _

theorem payloadText_severity : payloadText printable cr.payload "severity" = "" := rfl

theorem payloadText_connector : payloadText printable cr.payload "connector_type" = "" := rfl

theorem payloadHasTags_payload (tags : List (String × String)) :
    payloadHasTags cr.payload tags =
      .ok (tags.all fun (k,v) => cr.plain.assetTags.lookup k = some v) := by
  cases tags <;> rfl

theorem payloadMatches_payload :
    payloadMatches printable cr.payload rule = .ok (ruleMatches rule cr.plain) := by
  rw [payloadMatches,payloadText_type,payloadText_status,payloadText_severity,
    payloadText_connector,payloadHasTags_payload]
  have htype : cr.plain.changeType = cr.changeType.value := rfl
  have hstatus : cr.plain.status = cr.status.value := rfl
  have hseverity : cr.plain.severity = "" := rfl
  have hconnector : cr.plain.connectorType = "" := rfl
  rw [ruleMatches,htype,hstatus,hseverity,hconnector]
  cases allows rule.matchCrTypes cr.changeType.value with
  | false => rfl
  | true =>
    cases allows rule.matchSeverities "" with
    | false => rfl
    | true =>
      cases (rule.matchAssetTags.getD []).all fun (k,v) => cr.plain.assetTags.lookup k = some v with
      | false => rfl
      | true => cases allows rule.matchConnectorTypes "" <;> rfl

theorem payloadMembers_payload (hid : parseUuid cr.organizationId = .ok cr.organizationId)
    (roleIds : List String) :
    s.payloadMembers cr.payload roleIds = s.roleMembers cr.organizationId roleIds := by
  have horg : cr.payload.getD "organization_id" .null = .str cr.organizationId := rfl
  rw [RoutingStore.payloadMembers,horg]
  by_cases hroles : roleIds = []
  · subst hroles
    simp [RoutingStore.roleMembers]
    rfl
  · have hne : cr.organizationId ≠ "" := by
      intro h
      have hempty : parseUuid "" = .error (.valueError "badly formed hexadecimal UUID string") := by
        decide +kernel
      rw [h,hempty] at hid
      cases hid
    simp [hroles,Json.truthy,hne,hid]

theorem preview_payload (hid : parseUuid cr.organizationId = .ok cr.organizationId) :
    previewRoutingRules printable q s cr.payload = evaluateRoutingRules q s cr.plain := by
  have hround : (fun acc rule => do
      let fires ← payloadMatches printable cr.payload rule
      if fires then s.applyToPayload cr.payload acc rule else pure acc) =
      fun acc rule => if ruleMatches rule cr.plain = true then s.applyRule cr.plain acc rule
        else pure acc := by
    funext acc rule
    rw [payloadMatches_payload,Checks.ok_bind,RoutingStore.applyToPayload,
      payloadMembers_payload hid]
    rfl
  rw [previewRoutingRules,hround,evaluateRoutingRules,List.foldlM_filter]

theorem matches_alike_iff :
    ruleMatches rule cr.routed = ruleMatches rule cr.plain ↔
      (rule.OpenOtherwise → rule.ReadsAlike cr) := by
  by_cases hopen : rule.OpenOtherwise
  · obtain ⟨hseverities,htags,hconnectors⟩ := hopen
    have hforced : rule.OpenOtherwise := ⟨hseverities,htags,hconnectors⟩
    rw [Bool.eq_iff_iff]
    simp [ruleMatches,ChangeRequest.plain,ChangeRequest.routed,hseverities,htags,hconnectors,
      NotificationRoutingRule.ReadsAlike,hforced]
  · have hrefused : ∀ text text', ruleMatches rule
        { cr.routed with changeType := text, status := text' } = false := by
      intro text text'
      by_contra hmatch
      simp only [Bool.not_eq_false,ruleMatches,Bool.and_eq_true] at hmatch
      obtain ⟨⟨⟨⟨_,hseverities⟩,htags⟩,hconnectors⟩,_⟩ := hmatch
      refine hopen ⟨hseverities,?_,hconnectors⟩
      cases hcases : rule.matchAssetTags.getD [] with
      | nil => rfl
      | cons kv kvs => simp [hcases,ChangeRequest.routed] at htags
    have hrouted : ruleMatches rule cr.routed = false := hrefused _ _
    have hplain : ruleMatches rule cr.plain = false := hrefused _ _
    simp [hrouted,hplain,hopen]

theorem applyRule_matched {change : RoutedChange} (h : s.applyRule change acc rule = .ok r) :
    r.matchedRules = acc.matchedRules ++ [rule.name] := by
  obtain ⟨_,_,h⟩ := Checks.bind_eq_ok.mp h
  obtain rfl := Checks.pure_eq_ok.mp h
  rfl

theorem foldRules_matched {change : RoutedChange} {rules : List NotificationRoutingRule}
    (h : rules.foldlM (s.applyRule change) acc = .ok r) :
    r.matchedRules = acc.matchedRules ++ rules.map NotificationRoutingRule.name := by
  induction rules generalizing acc with
  | nil =>
    obtain rfl := Checks.pure_eq_ok.mp h
    simp
  | cons rule rules ih =>
    rw [List.foldlM_cons] at h
    obtain ⟨next,hnext,h⟩ := Checks.bind_eq_ok.mp h
    rw [ih h,applyRule_matched hnext]
    simp

/-- Among items of distinct names the selected names tell the selected items. -/
theorem mem_of_names {rules : List NotificationRoutingRule} {p p' : NotificationRoutingRule → Bool}
    (hnames : (rules.map NotificationRoutingRule.name).Nodup)
    (h : (rules.filter p).map NotificationRoutingRule.name =
      (rules.filter p').map NotificationRoutingRule.name)
    (hmem : rule ∈ rules) (hp : p rule = true) : p' rule = true := by
  have hname : rule.name ∈ (rules.filter p).map NotificationRoutingRule.name :=
    List.mem_map_of_mem (List.mem_filter.mpr ⟨hmem,hp⟩)
  rw [h] at hname
  obtain ⟨other,hother,hsame⟩ := List.mem_map.mp hname
  obtain ⟨hin,hp'⟩ := List.mem_filter.mp hother
  rwa [← List.inj_on_of_nodup_map hnames hin hmem hsame]

theorem alike_of_matched (hnames :
      ((s.rules.filter fun rule => rule.enabled).map NotificationRoutingRule.name).Nodup)
    (hr : evaluateRoutingRules q s cr.routed = .ok r)
    (hr' : evaluateRoutingRules q s cr.plain = .ok r') (h : r.matchedRules = r'.matchedRules) :
    s.ReadsAlike cr := by
  have hordered : ((q.orderBy (s.rules.filter fun rule => rule.enabled)).map
      NotificationRoutingRule.name).Nodup := ((q.perm _).map _).nodup_iff.mpr hnames
  rw [foldRules_matched hr,foldRules_matched hr'] at h
  intro rule hrule henabled
  refine matches_alike_iff.mp (Bool.eq_iff_iff.mpr ?_)
  have hmem : rule ∈ q.orderBy (s.rules.filter fun rule => rule.enabled) :=
    (q.perm _).mem_iff.mpr (List.mem_filter.mpr ⟨hrule,henabled⟩)
  exact ⟨mem_of_names hordered h hmem,mem_of_names hordered h.symm hmem⟩

theorem evaluate_alike (h : s.ReadsAlike cr) :
    evaluateRoutingRules q s cr.routed = evaluateRoutingRules q s cr.plain := by
  have hfilter : ((q.orderBy (s.rules.filter fun rule => rule.enabled)).filter fun rule =>
      ruleMatches rule cr.routed) =
      (q.orderBy (s.rules.filter fun rule => rule.enabled)).filter fun rule =>
        ruleMatches rule cr.plain := by
    refine List.filter_congr fun rule hrule => matches_alike_iff.mpr ?_
    obtain ⟨hmem,henabled⟩ := List.mem_filter.mp ((q.perm _).mem_iff.mp hrule)
    exact h rule hmem henabled
  rw [evaluateRoutingRules,hfilter]
  rfl

/-- The same users, channels, suppression and rules. -/
structure SameAnswer (r r' : RoutingResult) : Prop where
  users : ∀ u, u ∈ r.userIds ↔ u ∈ r'.userIds
  channels : r.channels = r'.channels
  suppressDefault : r.suppressDefault = r'.suppressDefault
  matchedRules : r.matchedRules = r'.matchedRules

/-- The preview agrees with the evaluation if no enabled rule tells member names from values, and,
where the names of the rules are distinct and both return, only then. -/
theorem preview_agrees (printable : Char → Bool) (q : PriorityOrder) (s : RoutingStore)
    (cr : ChangeRequest) (hid : parseUuid cr.organizationId = .ok cr.organizationId) :
    (s.ReadsAlike cr →
      evaluateRoutingRules q s cr.routed = previewRoutingRules printable q s cr.payload) ∧
    ∀ r r', evaluateRoutingRules q s cr.routed = .ok r →
      previewRoutingRules printable q s cr.payload = .ok r' →
      ((s.rules.filter fun rule => rule.enabled).map NotificationRoutingRule.name).Nodup →
      (SameAnswer r r' ↔ s.ReadsAlike cr) := by
  rw [preview_payload hid]
  refine ⟨evaluate_alike,fun r r' hr hr' hnames => ⟨fun h => ?_,fun h => ?_⟩⟩
  · exact alike_of_matched hnames hr hr' h.matchedRules
  · rw [evaluate_alike h] at hr
    obtain rfl := Except.ok.inj (hr.symm.trans hr')
    exact ⟨fun _ => Iff.rfl,rfl,rfl,rfl⟩

def completedChange : ChangeRequest where
  id := "cr"
  organizationId := "00000000-0000-0000-0000-00000000000a"
  requesterId := "u"
  changeType := .changeIp
  targetAssetIds := []
  desiredOutcome := []
  status := .completed
  riskLevel := none
  changePlan := none
  applicationSequence := none

/-- One rule, for changes whose status is one of the texts. -/
def statusRule (texts : List String) : RoutingStore where
  users := []
  rules := [{ id := "r1", name := "done", matchStatus := some texts
              notifyChannels := some ["#ops"] }]

theorem completedChange_id :
    parseUuid completedChange.organizationId = .ok completedChange.organizationId := by
  decide +kernel

theorem preview_agrees_both_spellings :
    evaluateRoutingRules .stable (statusRule ["completed","ChangeRequestStatus.completed"])
        completedChange.routed =
      previewRoutingRules (fun _ => true) .stable
        (statusRule ["completed","ChangeRequestStatus.completed"]) completedChange.payload := by
  refine (preview_agrees _ _ _ _ completedChange_id).1 fun rule hrule _ _ => ?_
  obtain rfl := List.mem_singleton.mp hrule
  exact ⟨fun _ => by decide,fun _ => by decide⟩

/-- The rule fires in the preview and not for the completed change itself. -/
theorem preview_alone_matches :
    evaluateRoutingRules .stable (statusRule ["completed"]) completedChange.routed = .ok {} ∧
      previewRoutingRules (fun _ => true) .stable (statusRule ["completed"])
          completedChange.payload =
        .ok { channels := ["#ops"], matchedRules := ["done"] } ∧
      ¬SameAnswer {} { channels := ["#ops"], matchedRules := ["done"] } := by
  refine ⟨rfl,?_,fun h => nomatch h.channels⟩
  rw [preview_payload completedChange_id]
  rfl

end Agreement

end Nexplane
