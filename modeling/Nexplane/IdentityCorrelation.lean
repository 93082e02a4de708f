import Nexplane.FanOut
import Nexplane.IdentitySync
import Nexplane.Lib.Lists
import Nexplane.Lib.Orm

set_option autoImplicit false

/-! Whether the accounts of an identity profile stay the ones with its e-mail. -/

namespace Nexplane
open PyValue Runs

/-- There is one profile for an organization and an e-mail and one account for a connector and an
external id, and an account belongs to the profile of its e-mail. -/
structure Correlated (t : IdentityTables) : Prop where
  profileKeys : (t.profiles.map ProfileRow.key).Nodup
  storable : t.Storable
  linked : ∀ a ∈ t.accounts, ∃ p ∈ t.profiles, p.id = a.identityProfileId ∧
    p.organizationId = a.organizationId ∧ a.email = some p.primaryEmail

def identitySystem (lower : List Char → List Char) : System IdentityState IdentityEvent where
  start s := Correlated s.committed ∧ s.session = { tables := s.committed }
  step s e := some (s.step lower e)

/-- One of the accounts of the call has this external id and this e-mail. -/
def SyncCall.Delivers (lower : List Char → List Char) (c : SyncCall) (externalId email : String) :
    Prop :=
  email ≠ "" ∧ ∃ raw ∈ c.accounts, ∃ found, readAccount lower c.connectorType raw = .ok found ∧
    found.externalId = .str externalId ∧ found.email = some email

/-- No account that has a row is delivered with another e-mail than the one in its row. -/
def KeepsEmails (lower : List Char → List Char) (s : IdentityState) : IdentityEvent → Prop
  | .sync c =>
    ∀ externalId email, c.Delivers lower externalId email → ∀ a ∈ s.session.tables.accounts,
      a.key = (c.connectorId,externalId) → a.email = some email
  | _ => True

/-- The profiles by their ids and keys. -/
def profileIndex (t : IdentityTables) : List (Uuid × Uuid × String) :=
  t.profiles.map fun p => (p.id,p.key)

/-- What holds of the tables of a session between two flushes. -/
structure LinkedAccounts (t : IdentityTables) : Prop where
  keys : ((profileIndex t).map Prod.snd).Nodup
  linked : ∀ a ∈ t.accounts, ∃ email, a.email = some email ∧
    (a.identityProfileId,a.organizationId,email) ∈ profileIndex t

/-- The loop of a sync: the dictionary of the profiles mirrors the table, and the rows from before
the loop have the e-mails that are delivered for them. -/
structure SyncSound (lower : List Char → List Char) (c : SyncCall) (byExt : List String)
    (byEmail : List (String × Uuid)) (t : IdentityTables) : Prop where
  accounts : LinkedAccounts t
  mirrors : ∀ email id, byEmail.lookup email = some id ↔
    (id,c.organizationId,email) ∈ profileIndex t
  agrees : ∀ externalId email, c.Delivers lower externalId email → externalId ∈ byExt →
    ∀ a ∈ t.accounts, a.key = (c.connectorId,externalId) → a.email = some email

section Tables

variable {t : IdentityTables}

theorem keys_eq_index : (profileIndex t).map Prod.snd = t.profiles.map ProfileRow.key := by
  simp [profileIndex,Function.comp_def]

theorem Correlated.linkedAccounts (h : Correlated t) : LinkedAccounts t where
  keys := by
    rw [keys_eq_index]
    exact h.profileKeys
  linked := by
    intro a ha
    obtain ⟨p,hp,hid,horg,hemail⟩ := h.linked a ha
    refine ⟨_,hemail,List.mem_map.mpr ⟨p,hp,?_⟩⟩
    rw [hid,ProfileRow.key,horg]

theorem LinkedAccounts.correlated (h : LinkedAccounts t) (hstorable : t.Storable) :
    Correlated t where
  profileKeys := by
    rw [← keys_eq_index]
    exact h.keys
  storable := hstorable
  linked := by
    intro a ha
    obtain ⟨email,hemail,hmem⟩ := h.linked a ha
    obtain ⟨p,hp,heq⟩ := List.mem_map.mp hmem
    simp only [ProfileRow.key,Prod.mk.injEq] at heq
    exact ⟨p,hp,heq.1,heq.2.1,heq.2.2 ▸ hemail⟩

end Tables

section Session

variable {lower : List Char → List Char} {c : SyncCall} {byExt : List String}
  {byEmail byEmail' : List (String × Uuid)} {t t' : IdentityTables} {s s' : IdentitySession}
  {found : DiscoveredAccount} {email : String} {profileId : Uuid} {raw : Json}

theorem flush_tables (s : IdentitySession) : (flush s).2.tables = s.tables := by
  unfold flush
  split
  · rfl
  split
  · rfl
  · rfl

theorem flush_storable {u : Unit} (h : flush s = (.ok u,s')) : s' = s ∧ s.tables.Storable := by
  unfold flush at h
  split at h
  · cases h
  split at h
  · next hstorable =>
    cases h
    exact ⟨rfl,hstorable.2⟩
  · cases h

theorem touchProfile_index (c : SyncCall) (p : ProfileRow) :
    ((c.touchProfile p).id,(c.touchProfile p).key) = (p.id,p.key) := by
  unfold SyncCall.touchProfile
  split <;> rfl

/-- The e-mails of the profiles of an organization are distinct. -/
theorem loadProfiles_nodup (h : LinkedAccounts t) : ((c.loadProfiles t).map Prod.fst).Nodup := by
  have hkeys := h.keys
  rw [keys_eq_index] at hkeys
  have hsub : (t.profiles.filter fun p => p.organizationId = c.organizationId).Sublist
    t.profiles := List.filter_sublist
  have hsame : (t.profiles.filter fun p => p.organizationId = c.organizationId).map ProfileRow.key =
      ((t.profiles.filter fun p => p.organizationId = c.organizationId).map
        ProfileRow.primaryEmail).map (Prod.mk c.organizationId) := by
    rw [List.map_map]
    refine List.map_congr_left fun p hp => ?_
    have horg := of_decide_eq_true (List.mem_filter.mp hp).2
    rw [ProfileRow.key,horg]
    rfl
  have hfiltered := hkeys.sublist (hsub.map ProfileRow.key)
  rw [hsame] at hfiltered
  have hemails := hfiltered.of_map
  simpa [SyncCall.loadProfiles,Function.comp_def] using hemails

/-- The dictionaries of a sync are sound as they are loaded. -/
theorem sound_of_load (h : LinkedAccounts t)
    (hagrees : ∀ externalId email, c.Delivers lower externalId email → ∀ a ∈ t.accounts,
      a.key = (c.connectorId,externalId) → a.email = some email) :
    SyncSound lower c (c.loadAccounts t) (c.loadProfiles t) t where
  accounts := h
  mirrors := by
    intro email id
    rw [Lists.lookup_eq_some_iff (loadProfiles_nodup h)]
    simp only [SyncCall.loadProfiles,profileIndex,ProfileRow.key,List.mem_reverse,List.mem_map,
      List.mem_filter,decide_eq_true_eq,Prod.mk.injEq]
    constructor
    · rintro ⟨p,⟨hp,horg⟩,hemail,hid⟩
      exact ⟨p,hp,hid,horg,hemail⟩
    · rintro ⟨p,hp,hid,horg,hemail⟩
      exact ⟨p,⟨hp,horg⟩,hemail,hid⟩
  agrees := by
    intro externalId email hdelivers _
    exact hagrees externalId email hdelivers

/-- What counts of the tables is the index of the profiles and the accounts. -/
theorem SyncSound.of_index (h : SyncSound lower c byExt byEmail t)
    (hindex : profileIndex t' = profileIndex t) (haccounts : t'.accounts = t.accounts) :
    SyncSound lower c byExt byEmail t' where
  accounts := by
    refine ⟨?_,?_⟩
    · rw [hindex]
      exact h.accounts.keys
    · rw [hindex,haccounts]
      exact h.accounts.linked
  mirrors := by
    rw [hindex]
    exact h.mirrors
  agrees := by
    rw [haccounts]
    exact h.agrees

theorem SyncSound.not_mem_index (h : SyncSound lower c byExt byEmail t)
    (hnone : byEmail.lookup email = none) (id : Uuid) :
    (id,c.organizationId,email) ∉ profileIndex t := by
  intro hmem
  rw [(h.mirrors email id).mpr hmem] at hnone
  cases hnone

/-- A profile is added for an e-mail that the dictionary does not have. -/
theorem SyncSound.add (h : SyncSound lower c byExt byEmail t) {id : Uuid}
    (hnone : byEmail.lookup email = none)
    (hindex : profileIndex t' = profileIndex t ++ [(id,c.organizationId,email)])
    (haccounts : t'.accounts = t.accounts) :
    SyncSound lower c byExt ((email,id) :: byEmail) t' where
  accounts := by
    refine ⟨?_,?_⟩
    · rw [hindex,List.map_append]
      refine List.nodup_append.mpr ⟨h.accounts.keys,List.nodup_singleton _,?_⟩
      rintro _ hold _ hnew rfl
      obtain ⟨⟨id',key⟩,hmem,rfl⟩ := List.mem_map.mp hold
      obtain rfl : key = (c.organizationId,email) := by simpa using hnew
      exact h.not_mem_index hnone id' hmem
    · rw [hindex,haccounts]
      intro a ha
      obtain ⟨e,he,hmem⟩ := h.accounts.linked a ha
      exact ⟨e,he,List.mem_append_left _ hmem⟩
  mirrors := by
    intro e id'
    rw [hindex,List.lookup_cons,List.mem_append,List.mem_singleton]
    by_cases he : e = email
    · subst he
      simp [h.not_mem_index hnone id',eq_comm]
    · rw [beq_false_of_ne he]
      simp [he,h.mirrors]
  agrees := by
    rw [haccounts]
    exact h.agrees

theorem touchProfiles_index (c : SyncCall) (id : Uuid) (t : IdentityTables) :
    profileIndex { t with
      profiles := t.profiles.map fun p => if p.id = id then c.touchProfile p else p } =
    profileIndex t := by
  rw [profileIndex,profileIndex,List.map_map]
  refine List.map_congr_left fun p _ => ?_
  rw [Function.comp_apply]
  split
  · exact touchProfile_index c p
  · rfl

theorem findOrCreateProfile_sound {r : Except Exc (Uuid × List (String × Uuid) × Nat)}
    (h : SyncSound lower c byExt byEmail s.tables)
    (hrun : c.findOrCreateProfile found email byEmail s = (r,s')) :
    ∃ byEmail', SyncSound lower c byExt byEmail' s'.tables ∧
      ∀ out, r = .ok out → out.2.1 = byEmail' ∧
        (out.1,c.organizationId,email) ∈ profileIndex s'.tables := by
  unfold SyncCall.findOrCreateProfile at hrun
  cases hlookup : byEmail.lookup email with
  | some id =>
    rw [hlookup] at hrun
    obtain ⟨rfl,rfl⟩ := Prod.mk.inj hrun
    have hindex := touchProfiles_index c id s.tables
    refine ⟨byEmail,h.of_index hindex rfl,?_⟩
    rintro out hout
    obtain rfl := Except.ok.inj hout
    refine ⟨rfl,?_⟩
    have hmem := (h.mirrors email id).mp hlookup
    rw [← hindex] at hmem
    exact hmem
  | none =>
    rw [hlookup] at hrun
    cases hname : firstTruthy found.rawAttrs ["displayName","name"] with
    | error e =>
      simp only [hname,Py.ofExcept_error_bind] at hrun
      obtain ⟨rfl,rfl⟩ := Prod.mk.inj hrun
      exact ⟨byEmail,h,nofun⟩
    | ok displayName =>
      simp only [hname,Py.ofExcept_ok_bind,Py.modify_bind] at hrun
      have hindex : profileIndex { s.tables with profiles := s.tables.profiles ++
          [c.newProfile email (textColumn (displayName.orElse found.username)).1] } =
          profileIndex s.tables ++ [(c.newId email,c.organizationId,email)] := by
        rw [profileIndex,List.map_append]
        rfl
      obtain ⟨rfl,hout⟩ := Py.bind_return hrun
      rw [flush_tables]
      refine ⟨_,h.add hlookup hindex rfl,?_⟩
      intro out hr
      obtain rfl := hout out hr
      refine ⟨rfl,?_⟩
      rw [hindex]
      exact List.mem_append_right _ List.mem_cons_self

/-- The accounts of the tables are replaced by others that are linked and agree as well. -/
theorem SyncSound.of_accounts (h : SyncSound lower c byExt byEmail t)
    (hindex : profileIndex t' = profileIndex t)
    (hlinked : ∀ a ∈ t'.accounts, ∃ email, a.email = some email ∧
      (a.identityProfileId,a.organizationId,email) ∈ profileIndex t)
    (hagrees : ∀ a ∈ t'.accounts, ∀ externalId ∈ byExt, a.key = (c.connectorId,externalId) →
      ∃ b ∈ t.accounts, b.key = a.key ∧ b.email = a.email) :
    SyncSound lower c byExt byEmail t' where
  accounts := by
    refine ⟨?_,?_⟩
    · rw [hindex]
      exact h.accounts.keys
    · rw [hindex]
      exact hlinked
  mirrors := by
    rw [hindex]
    exact h.mirrors
  agrees := by
    intro externalId email hdelivers hmem a ha hkey
    obtain ⟨b,hb,hsame,heq⟩ := hagrees a ha externalId hmem hkey
    rw [← heq]
    exact h.agrees externalId email hdelivers hmem b hb (hsame.trans hkey)

theorem upsertAccount_sound (h : SyncSound lower c byExt byEmail s.tables)
    (hprofile : (profileId,c.organizationId,email) ∈ profileIndex s.tables)
    (hraw : raw ∈ c.accounts) (hread : readAccount lower c.connectorType raw = .ok found)
    (hemail : found.email = some email) (hne : email ≠ "") :
    SyncSound lower c byExt byEmail (c.upsertAccount byExt found email profileId s).2.tables := by
  unfold SyncCall.upsertAccount
  cases hext : found.externalId with
  | str externalId =>
    by_cases hknown : externalId ∈ byExt
    · -- The row has the e-mail that is written to it.
      have hrow : ∀ a ∈ s.tables.accounts, a.key = (c.connectorId,externalId) →
          a.email = some email :=
        h.agrees externalId email ⟨hne,raw,hraw,found,hread,hext,hemail⟩ hknown
      simp only [if_pos hknown,Py.modify_run]
      refine h.of_accounts rfl ?_ ?_
      · intro a ha
        obtain ⟨b,hb,rfl⟩ := List.mem_map.mp ha
        obtain ⟨e,he,hmem⟩ := h.accounts.linked b hb
        split
        · next hkey => exact ⟨e,(hrow b hb hkey).symm.trans he,hmem⟩
        · exact ⟨e,he,hmem⟩
      · intro a ha _ _ _
        obtain ⟨b,hb,rfl⟩ := List.mem_map.mp ha
        split
        · next hkey => exact ⟨b,hb,rfl,hrow b hb hkey⟩
        · exact ⟨b,hb,rfl,rfl⟩
    · simp only [if_neg hknown,Py.modify_run]
      refine h.of_accounts rfl ?_ ?_
      · intro a ha
        rcases List.mem_append.mp ha with ha | ha
        · exact h.accounts.linked a ha
        · obtain rfl := List.mem_singleton.mp ha
          exact ⟨email,rfl,hprofile⟩
      · intro a ha externalId' hmem hkey
        rcases List.mem_append.mp ha with ha | ha
        · exact ⟨a,ha,rfl,rfl⟩
        · obtain rfl := List.mem_singleton.mp ha
          obtain rfl : externalId = externalId' := congrArg Prod.snd hkey
          exact absurd hmem hknown
  | _ => exact h

theorem syncAccount_sound {r : Except Exc (List (String × Uuid) × SyncStats)}
    (h : SyncSound lower c byExt byEmail s.tables) (hraw : raw ∈ c.accounts)
    (hrun : c.syncAccount lower byExt byEmail raw s = (r,s')) :
    ∃ byEmail', SyncSound lower c byExt byEmail' s'.tables ∧ ∀ out, r = .ok out →
      out.1 = byEmail' := by
  unfold SyncCall.syncAccount at hrun
  cases hread : readAccount lower c.connectorType raw with
  | error e =>
    simp only [hread,Py.ofExcept_error_bind] at hrun
    obtain ⟨rfl,rfl⟩ := Prod.mk.inj hrun
    exact ⟨byEmail,h,nofun⟩
  | ok found =>
    simp only [hread,Py.ofExcept_ok_bind] at hrun
    cases hemail : found.email with
    | none =>
      rw [hemail] at hrun
      obtain ⟨rfl,rfl⟩ := Prod.mk.inj hrun
      refine ⟨byEmail,h,?_⟩
      rintro out hout
      obtain rfl := Except.ok.inj hout
      rfl
    | some email =>
      rw [hemail] at hrun
      by_cases hempty : email = ""
      · simp only [if_pos hempty] at hrun
        obtain ⟨rfl,rfl⟩ := Prod.mk.inj hrun
        refine ⟨byEmail,h,?_⟩
        rintro out hout
        obtain rfl := Except.ok.inj hout
        rfl
      · simp only [if_neg hempty] at hrun
        rw [Py.bind_run] at hrun
        rcases hfind : c.findOrCreateProfile found email byEmail s with ⟨_ | ⟨id,byEmail₁,n⟩,t⟩
        · rw [hfind] at hrun
          obtain ⟨byEmail',hsound,-⟩ := findOrCreateProfile_sound h hfind
          obtain ⟨rfl,rfl⟩ := Prod.mk.inj hrun
          exact ⟨byEmail',hsound,nofun⟩
        · rw [hfind] at hrun
          obtain ⟨byEmail',hsound,hout⟩ := findOrCreateProfile_sound h hfind
          obtain ⟨rfl,hprofile⟩ := hout _ rfl
          obtain ⟨rfl,hreturn⟩ := Py.bind_return hrun
          refine ⟨byEmail₁,?_,fun out hr => congrArg Prod.fst (hreturn out hr)⟩
          exact upsertAccount_sound hsound hprofile hraw hread hemail hempty

theorem syncAccounts_linked {raws : List Json} (h : SyncSound lower c byExt byEmail s.tables)
    (hraws : raws ⊆ c.accounts) (stats : SyncStats) :
    LinkedAccounts (c.syncAccounts lower byExt byEmail stats raws s).2.tables := by
  induction raws generalizing byEmail stats s with
  | nil => exact h.accounts
  | cons raw rest ih =>
    rw [SyncCall.syncAccounts,Py.bind_run]
    rcases hone : c.syncAccount lower byExt byEmail raw s with ⟨_ | ⟨byEmail₁,one⟩,t⟩
    · obtain ⟨byEmail',hsound,-⟩ := syncAccount_sound h (hraws List.mem_cons_self) hone
      exact hsound.accounts
    · obtain ⟨byEmail',hsound,hout⟩ := syncAccount_sound h (hraws List.mem_cons_self) hone
      obtain rfl := hout _ rfl
      exact ih hsound (fun raw hraw => hraws (List.mem_cons_of_mem _ hraw)) _

theorem markStale_linked (h : LinkedAccounts t) :
    LinkedAccounts { t with accounts := t.accounts.map c.markStale } where
  keys := h.keys
  linked := by
    intro a ha
    obtain ⟨b,hb,rfl⟩ := List.mem_map.mp ha
    unfold SyncCall.markStale
    split
    · exact h.linked b hb
    · exact h.linked b hb

theorem sync_linked (h : LinkedAccounts s.tables)
    (hagrees : ∀ externalId email, c.Delivers lower externalId email → ∀ a ∈ s.tables.accounts,
      a.key = (c.connectorId,externalId) → a.email = some email) :
    LinkedAccounts (c.syncConnectorAccounts lower s).2.tables := by
  unfold SyncCall.syncConnectorAccounts
  have hload := flush_tables s
  rcases hflush : flush s with ⟨_ | _,u⟩
  · rw [hflush] at hload
    rw [Py.bind_error hflush,hload]
    exact h
  rw [hflush] at hload
  rw [← hload] at h hagrees
  rw [Py.bind_ok hflush,Py.get_bind]
  have hloop := syncAccounts_linked (sound_of_load h hagrees) (List.Subset.refl _) {}
  rcases hrun : c.syncAccounts lower (c.loadAccounts u.tables) (c.loadProfiles u.tables) {}
    c.accounts u with ⟨_ | stats,v⟩
  · rw [Py.bind_error hrun]
    rwa [hrun] at hloop
  rw [hrun] at hloop
  rw [Py.bind_ok hrun]
  have hend := flush_tables v
  rcases hflush : flush v with ⟨_ | _,w⟩
  · rw [hflush] at hend
    rw [Py.bind_error hflush,hend]
    exact hloop
  rw [hflush] at hend
  rw [← hend] at hloop
  rw [Py.bind_ok hflush]
  exact markStale_linked hloop

end Session

/-- The committed tables are correlated, and so will be what the session commits. -/
structure IdentitySound (s : IdentityState) : Prop where
  committed : Correlated s.committed
  session : LinkedAccounts s.session.tables

section Runs

variable {lower : List Char → List Char}

variable (lower) in
theorem identity_sound :
    InductiveUnder (identitySystem lower) (KeepsEmails lower) IdentitySound where
  start := by
    intro s h0
    obtain ⟨hcorrelated,hsession⟩ := h0
    refine ⟨hcorrelated,?_⟩
    rw [hsession]
    exact hcorrelated.linkedAccounts
  step := by
    intro s e s' h hkeeps hs
    obtain rfl := Option.some.inj hs
    cases e with
    | sync call => exact ⟨h.committed,sync_linked h.session hkeeps⟩
    | commit =>
      simp only [IdentityState.step]
      split
      · next session hflush =>
        obtain ⟨rfl,hstorable⟩ := flush_storable hflush
        exact ⟨h.session.correlated hstorable,h.session⟩
      · exact ⟨h.committed,h.committed.linkedAccounts⟩
    | rollback => exact ⟨h.committed,h.committed.linkedAccounts⟩

theorem identity_correlated {tr : List (Transition IdentityState IdentityEvent)}
    {s : IdentityState} (h : Run (identitySystem lower) tr s)
    (hG : ∀ t ∈ tr, KeepsEmails lower t.pre t.label) : Correlated s.committed :=
  (h.guarded (identity_sound lower) hG).committed

end Runs

/-- An account and a profile as the fan-out loads them. -/
def AccountRow.load (a : AccountRow) : IdentityAccount where
  connectorId := a.connectorId
  connectorType := a.connectorType
  externalId := a.externalId
  isStale := a.isStale

def ProfileRow.load (p : ProfileRow) (t : IdentityTables) : IdentityProfile where
  id := p.id
  organizationId := p.organizationId
  primaryEmail := p.primaryEmail
  accounts := (t.accounts.filter fun a => a.identityProfileId = p.id).map AccountRow.load

def githubSync (email : String) : IdentityEvent := .sync {
  organizationId := "o1"
  connectorId := "c1"
  connectorType := "github"
  accounts := [.obj [("id",.str "7"),("email",.str email)]]
  now := 0
  newId := fun email => email }

def noIdentities : IdentityTables where
  profiles := []
  accounts := []

def freshIdentities : IdentityState where
  committed := noIdentities
  session := { tables := noIdentities }

def asciiLower : List Char → List Char := List.map Char.toLower

theorem run_freshIdentities : Run (identitySystem asciiLower) [] freshIdentities :=
  .start ⟨⟨List.nodup_nil,⟨List.nodup_nil,List.nodup_nil⟩,by simp [freshIdentities,noIdentities]⟩,
    rfl⟩

/-- The second sync delivers the e-mail in another case. -/
theorem same_email_correlated : ∃ tr s, Run (identitySystem asciiLower) tr s ∧
    s.committed.accounts.length = 1 ∧ Correlated s.committed := by
  have hrun : (identitySystem asciiLower).replay freshIdentities
      [githubSync "A@x.org",.commit,githubSync "a@x.org",.commit] = some _ := rfl
  refine ⟨_,_,run_freshIdentities.replay hrun,rfl,?_⟩
  refine identity_correlated (run_freshIdentities.replay hrun) (System.history_meets ?_ (by simp))
  refine ⟨?_,trivial,?_,trivial,trivial⟩
  · intro externalId email _ a ha
    exact absurd ha List.not_mem_nil
  · rintro externalId email ⟨-,raw,hraw,found,hread,-,hemail⟩ a ha _
    obtain rfl := List.mem_singleton.mp hraw
    obtain rfl := Except.ok.inj hread
    obtain rfl := List.mem_singleton.mp ha
    exact hemail

/-- The row of the account takes the new e-mail and stays with the profile of the old one. -/
theorem changed_email_unlinked : ∃ tr s, Run (identitySystem asciiLower) tr s ∧
    ¬Correlated s.committed := by
  have hrun : (identitySystem asciiLower).replay freshIdentities
      [githubSync "A@x.org",.commit,githubSync "b@x.org",.commit] = some _ := rfl
  refine ⟨_,_,run_freshIdentities.replay hrun,fun h => ?_⟩
  exact absurd h.linked (by decide)

end Nexplane
