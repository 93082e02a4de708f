import Nexplane.Entities
import Nexplane.Lib.Lists
import Nexplane.Lib.Runs
import Nexplane.Lib.Text

set_option autoImplicit false

/-! Handshakes that present a tunnel connection token. Each statement is atomic and reads what is
committed; nothing is locked between them. -/

namespace Nexplane
open Runs Lists

structure TunnelConnectionToken where
  agentId : Uuid
  expiresAt : Nat
  usedAt : Option Nat
  deriving DecidableEq, Repr

def tokenTtlSeconds : Nat := 60

inductive HandshakePhase where
  /-- The clock has been read, the token is about to be selected. -/
  | selecting
  /-- All checks passed, `used_at` is set in the session but not committed. -/
  | committing
  /-- Committed, the registration is about to be selected. -/
  | loading
  | returned (registration : Option Uuid)
  deriving DecidableEq, Repr

/-- One `_consume_tunnel_token`. -/
structure Handshake where
  tokenHash : String
  aid : Uuid
  now : Nat
  phase : HandshakePhase
  deriving DecidableEq, Repr

structure TokenState where
  now : Nat
  tokens : String → Option TunnelConnectionToken
  registered : Uuid → Bool
  handshakes : List Handshake

inductive TokenEvent where
  | tick
  | setRegistered (agentId : Uuid) (registered : Bool)
  | issue (tokenHash : String) (agentId : Uuid)
  | present (authorization agentId : String)
  | select (handshake : Nat)
  | commit (handshake : Nat)
  | load (handshake : Nat)
  deriving DecidableEq, Repr

def isHexDigit (c : Char) : Bool := "0123456789abcdefABCDEF".toList.contains c

/-- The bearer value when it has the shape of a connection token. -/
def connectionToken (authorization : String) : Option String :=
  if "Bearer ".toList.isPrefixOf authorization.toList = true then
    let candidate := Text.strip (authorization.toList.drop 7)
    if candidate.length = 64 ∧ candidate.all isHexDigit = true then
      some (String.ofList candidate)
    else none
  else none

/-- The checks on the selected row, in their order. -/
def acceptsToken (h : Handshake) : Option TunnelConnectionToken → Bool
  | none => false
  | some record =>
    if record.usedAt.isSome = true then false
    else if record.expiresAt < h.now then false
    else record.agentId == h.aid

def TokenState.setPhase (s : TokenState) (i : Nat) (h : Handshake) (phase : HandshakePhase) :
    TokenState :=
  { s with handshakes := s.handshakes.set i { h with phase } }

def TokenState.markUsed (s : TokenState) (h : Handshake) : TokenState :=
  { s with
    tokens := fun hash =>
      if hash = h.tokenHash then (s.tokens hash).map fun t => { t with usedAt := some h.now }
      else s.tokens hash }

def handshakeStep (s : TokenState) (i : Nat) (h : Handshake) : TokenEvent → Option TokenState
  | .select _ =>
    if h.phase = .selecting then
      some (s.setPhase i h
        (if acceptsToken h (s.tokens h.tokenHash) = true then .committing else .returned none))
    else none
  | .commit _ =>
    if h.phase = .committing then some ((s.setPhase i h .loading).markUsed h) else none
  | .load _ =>
    if h.phase = .loading then
      some (s.setPhase i h (.returned (if s.registered h.aid = true then some h.aid else none)))
    else none
  | _ => none

section System

variable (sha256 : String → String) (uuidOf : String → Option Uuid)

def tokenStep (s : TokenState) (e : TokenEvent) : Option TokenState :=
  match e with
  | .tick => some { s with now := s.now + 1 }
  | .setRegistered agentId b => some
      { s with registered := fun a => if a = agentId then b else s.registered a }
  -- `token_hash` is unique
  | .issue tokenHash agentId =>
    if s.tokens tokenHash = none then some
      { s with
        tokens := fun hash =>
          if hash = tokenHash then some ⟨agentId,s.now + tokenTtlSeconds,none⟩
          else s.tokens hash }
    else none
  | .present authorization agentId =>
    match connectionToken authorization with
    | none => none
    | some rawToken =>
      match uuidOf agentId with
      | none => some
          { s with
            handshakes := s.handshakes ++ [⟨sha256 rawToken,agentId,s.now,.returned none⟩] }
      | some aid => some
          { s with handshakes := s.handshakes ++ [⟨sha256 rawToken,aid,s.now,.selecting⟩] }
  | .select i | .commit i | .load i => (s.handshakes[i]?).bind fun h => handshakeStep s i h e

def tokenSystem : System TokenState TokenEvent where
  start s := s.tokens = (fun _ => none) ∧ s.handshakes = []
  step := tokenStep sha256 uuidOf

end System

/-- The handshake has a registration, or has committed and will select it. -/
def Handshake.accepted (hash : String) (h : Handshake) : Bool :=
  h.tokenHash == hash &&
    match h.phase with
    | .loading | .returned (some _) => true
    | _ => false

/-- The handshake returned a registration. -/
def Handshake.admitted (hash : String) (h : Handshake) : Bool :=
  h.tokenHash == hash &&
    match h.phase with
    | .returned (some _) => true
    | _ => false

/-- Of the handshakes with one token at most one got a registration, it began no later than the
token's expiry and it is for the token's agent. -/
def TokenState.SingleUse (s : TokenState) : Prop :=
  (∀ hash, s.handshakes.countP (Handshake.admitted hash) ≤ 1) ∧
    ∀ h ∈ s.handshakes, ∀ registration, h.phase = .returned (some registration) →
      ∃ token, s.tokens h.tokenHash = some token ∧ h.now ≤ token.expiresAt ∧
        h.aid = token.agentId ∧ registration = token.agentId

/-- A handshake commits only while its token is still unused. -/
def CommitsUnused (s : TokenState) : TokenEvent → Prop
  | .commit i => ∀ h, s.handshakes[i]? = some h →
      ∀ token, s.tokens h.tokenHash = some token → token.usedAt = none
  | _ => True

/-- What the checks have established for a handshake that passed them. -/
def Handshake.Checked (s : TokenState) (h : Handshake) : Prop :=
  match h.phase with
  | .selecting | .returned none => True
  | .committing | .loading => ∃ token, s.tokens h.tokenHash = some token ∧
      h.now ≤ token.expiresAt ∧ h.aid = token.agentId
  | .returned (some registration) => registration = h.aid ∧
      ∃ token, s.tokens h.tokenHash = some token ∧ h.now ≤ token.expiresAt ∧
        h.aid = token.agentId

/-- At most one handshake has been accepted with a token, and none with an unused one. -/
structure TokenInv (s : TokenState) : Prop where
  checked : ∀ h ∈ s.handshakes, h.Checked s
  unused : ∀ hash, (∀ token, s.tokens hash = some token → token.usedAt = none) →
    s.handshakes.countP (Handshake.accepted hash) = 0
  once : ∀ hash, s.handshakes.countP (Handshake.accepted hash) ≤ 1

section Steps

variable {sha256 : String → String} {uuidOf : String → Option Uuid} {s s' : TokenState} {i : Nat}
  {h h' : Handshake} {hash : String} {phase : HandshakePhase}

theorem Handshake.Checked.congr (hh : h.Checked s)
    (ht : ∀ token, s.tokens h.tokenHash = some token → ∃ token',
      s'.tokens h.tokenHash = some token' ∧ token'.agentId = token.agentId ∧
        token'.expiresAt = token.expiresAt) : h.Checked s' := by
  have key : (∃ token, s.tokens h.tokenHash = some token ∧ h.now ≤ token.expiresAt ∧
      h.aid = token.agentId) → ∃ token, s'.tokens h.tokenHash = some token ∧
      h.now ≤ token.expiresAt ∧ h.aid = token.agentId := by
    rintro ⟨token,htoken,hnow,haid⟩
    obtain ⟨token',htoken',hagent,hexpires⟩ := ht token htoken
    exact ⟨token',htoken',hexpires ▸ hnow,haid.trans hagent.symm⟩
  unfold Handshake.Checked at hh ⊢
  split at hh
  · trivial
  · trivial
  · exact key hh
  · exact key hh
  · exact ⟨hh.1,key hh.2⟩

theorem checked_of_tokens (hh : h.Checked s) (ht : s'.tokens = s.tokens) : h.Checked s' :=
  hh.congr fun token htoken => ⟨token,by rw [ht]; exact htoken,rfl,rfl⟩

theorem accepts_some (ha : acceptsToken h (s.tokens h.tokenHash) = true) :
    ∃ token, s.tokens h.tokenHash = some token ∧ h.now ≤ token.expiresAt ∧
      h.aid = token.agentId := by
  cases ht : s.tokens h.tokenHash with
  | none => simp [acceptsToken,ht] at ha
  | some token =>
    simp only [acceptsToken,ht] at ha
    split at ha
    · cases ha
    · split at ha
      · cases ha
      · next hexpired => exact ⟨token,rfl,Nat.le_of_not_lt hexpired,(eq_of_beq ha).symm⟩

/-- A step that leaves the tokens alone and accepts no handshake that was not accepted before. -/
theorem tokenInv_setPhase (hI : TokenInv s) (hi : s.handshakes[i]? = some h)
    (hc : Handshake.Checked s { h with phase })
    (ha : ∀ hash, Handshake.accepted hash { h with phase } = true → h.accepted hash = true) :
    TokenInv (s.setPhase i h phase) := by
  have hcount : ∀ hash, (s.setPhase i h phase).handshakes.countP (Handshake.accepted hash) ≤
      s.handshakes.countP (Handshake.accepted hash) := by
    intro hash
    have hset := countP_set_add (Handshake.accepted hash) { h with phase } hi
    have hle : (Handshake.accepted hash { h with phase }).toNat ≤ (h.accepted hash).toNat := by
      cases hnew : Handshake.accepted hash { h with phase } with
      | false => exact Nat.zero_le _
      | true =>
        rw [ha hash hnew]
    change (s.handshakes.set i { h with phase }).countP _ ≤ _
    omega
  refine ⟨fun h' hm => ?_,fun hash hu => ?_,fun hash => ?_⟩
  · rcases mem_set_cases hm with rfl | hm
    · exact checked_of_tokens hc rfl
    · exact checked_of_tokens (hI.checked h' hm) rfl
  · exact Nat.le_zero.mp (Nat.le_trans (hcount hash) (Nat.le_of_eq (hI.unused hash hu)))
  · exact Nat.le_trans (hcount hash) (hI.once hash)

theorem select_inv (hI : TokenInv s) (hi : s.handshakes[i]? = some h) :
    TokenInv (s.setPhase i h
      (if acceptsToken h (s.tokens h.tokenHash) = true then .committing else .returned none)) := by
  split
  · next ha => exact tokenInv_setPhase hI hi (accepts_some ha) (by simp [Handshake.accepted])
  · exact tokenInv_setPhase hI hi trivial (by simp [Handshake.accepted])

theorem load_inv (hI : TokenInv s) (hi : s.handshakes[i]? = some h) (hp : h.phase = .loading) :
    TokenInv (s.setPhase i h
      (.returned (if s.registered h.aid = true then some h.aid else none))) := by
  have hc := hI.checked h (List.mem_of_getElem? hi)
  simp only [Handshake.Checked,hp] at hc
  split
  · exact tokenInv_setPhase hI hi ⟨rfl,hc⟩ fun hash ha => by
      simpa [Handshake.accepted,hp] using ha
  · exact tokenInv_setPhase hI hi trivial (by simp [Handshake.accepted])

/-- The commit uses a token that nobody has been accepted with. -/
theorem commit_inv (hI : TokenInv s) (hi : s.handshakes[i]? = some h)
    (hp : h.phase = .committing)
    (hg : ∀ token, s.tokens h.tokenHash = some token → token.usedAt = none) :
    TokenInv ((s.setPhase i h .loading).markUsed h) := by
  have hc := hI.checked h (List.mem_of_getElem? hi)
  simp only [Handshake.Checked,hp] at hc
  obtain ⟨token,htoken,hnow,haid⟩ := hc
  have hmarked : ((s.setPhase i h .loading).markUsed h).tokens h.tokenHash =
      some { token with usedAt := some h.now } := by
    simp [TokenState.markUsed,TokenState.setPhase,htoken]
  have hother : ∀ hash, hash ≠ h.tokenHash →
      ((s.setPhase i h .loading).markUsed h).tokens hash = s.tokens hash := by
    intro hash hne
    simp [TokenState.markUsed,TokenState.setPhase,hne]
  have hkeep : ∀ h' : Handshake, h'.Checked s →
      h'.Checked ((s.setPhase i h .loading).markUsed h) := by
    intro h' hh
    refine hh.congr fun token' htoken' => ?_
    by_cases hne : h'.tokenHash = h.tokenHash
    · rw [hne] at htoken' ⊢
      obtain rfl : token = token' := Option.some.inj (htoken.symm.trans htoken')
      exact ⟨_,hmarked,rfl,rfl⟩
    · exact ⟨token',by rw [hother _ hne]; exact htoken',rfl,rfl⟩
  have hcount : ∀ hash,
      ((s.setPhase i h .loading).markUsed h).handshakes.countP (Handshake.accepted hash) =
        s.handshakes.countP (Handshake.accepted hash) + if hash = h.tokenHash then 1 else 0 := by
    intro hash
    have hset := countP_set_add (Handshake.accepted hash) { h with phase := .loading } hi
    have hold : h.accepted hash = false := by simp [Handshake.accepted,hp]
    change (s.handshakes.set i { h with phase := .loading }).countP _ = _
    by_cases hne : hash = h.tokenHash
    · have hnew : Handshake.accepted hash { h with phase := .loading } = true := by
        simp [Handshake.accepted,hne]
      rw [hold,hnew] at hset
      rw [if_pos hne]
      exact hset
    · have hnew : Handshake.accepted hash { h with phase := .loading } = false := by
        simp [Handshake.accepted,Ne.symm hne]
      rw [hold,hnew] at hset
      rw [if_neg hne]
      exact hset
  refine ⟨fun h' hm => ?_,fun hash hu => ?_,fun hash => ?_⟩
  · rcases mem_set_cases hm with rfl | hm
    · refine hkeep _ ?_
      simp only [Handshake.Checked]
      exact ⟨token,htoken,hnow,haid⟩
    · exact hkeep h' (hI.checked h' hm)
  · rw [hcount]
    by_cases hne : hash = h.tokenHash
    · rw [hne] at hu
      exact absurd (hu _ hmarked) (by simp)
    · rw [hother hash hne] at hu
      rw [if_neg hne,hI.unused hash hu]
  · rw [hcount]
    by_cases hne : hash = h.tokenHash
    · rw [if_pos hne,hne,hI.unused _ hg]
    · rw [if_neg hne]
      exact hI.once hash

theorem present_inv (hI : TokenInv s) (hc : h.Checked s)
    (ha : ∀ hash, h.accepted hash = false) :
    TokenInv { s with handshakes := s.handshakes ++ [h] } := by
  have hcount : ∀ hash, (s.handshakes ++ [h]).countP (Handshake.accepted hash) =
      s.handshakes.countP (Handshake.accepted hash) := by
    intro hash
    rw [List.countP_append,List.countP_singleton,ha hash]
    rfl
  refine ⟨fun h' hm => ?_,fun hash hu => ?_,fun hash => ?_⟩
  · rcases List.mem_append.mp hm with hm | hm
    · exact checked_of_tokens (hI.checked h' hm) rfl
    · obtain rfl := List.mem_singleton.mp hm
      exact checked_of_tokens hc rfl
  · rw [hcount]
    exact hI.unused hash hu
  · rw [hcount]
    exact hI.once hash

theorem tokenInv_step {e : TokenEvent} (hI : TokenInv s) (hg : CommitsUnused s e)
    (hstep : tokenStep sha256 uuidOf s e = some s') : TokenInv s' := by
  cases e with
  | tick =>
    obtain rfl := Option.some.inj hstep
    exact ⟨fun h hm => checked_of_tokens (hI.checked h hm) rfl,hI.unused,hI.once⟩
  | setRegistered agentId b =>
    obtain rfl := Option.some.inj hstep
    exact ⟨fun h hm => checked_of_tokens (hI.checked h hm) rfl,hI.unused,hI.once⟩
  | issue tokenHash agentId =>
    simp only [tokenStep,Option.ite_none_right_eq_some,Option.some.injEq] at hstep
    obtain ⟨hnone,rfl⟩ := hstep
    refine ⟨fun h hm => (hI.checked h hm).congr fun token htoken => ?_,fun hash hu => ?_,hI.once⟩
    · have hne : h.tokenHash ≠ tokenHash := by
        intro heq
        rw [heq,hnone] at htoken
        cases htoken
      exact ⟨token,by simp [hne,htoken],rfl,rfl⟩
    · by_cases heq : hash = tokenHash
      · exact hI.unused hash (by rw [heq,hnone]; exact nofun)
      · exact hI.unused hash (by simpa [heq] using hu)
  | present authorization agentId =>
    simp only [tokenStep] at hstep
    split at hstep
    · cases hstep
    · split at hstep <;> obtain rfl := Option.some.inj hstep
      · exact present_inv hI trivial fun _ => by simp [Handshake.accepted]
      · exact present_inv hI trivial fun _ => by simp [Handshake.accepted]
  | select i =>
    obtain ⟨h,hi,hstep⟩ := Option.bind_eq_some_iff.mp hstep
    simp only [handshakeStep,Option.ite_none_right_eq_some,Option.some.injEq] at hstep
    obtain ⟨hp,rfl⟩ := hstep
    exact select_inv hI hi
  | commit i =>
    obtain ⟨h,hi,hstep⟩ := Option.bind_eq_some_iff.mp hstep
    simp only [handshakeStep,Option.ite_none_right_eq_some,Option.some.injEq] at hstep
    obtain ⟨hp,rfl⟩ := hstep
    exact commit_inv hI hi hp (hg h hi)
  | load i =>
    obtain ⟨h,hi,hstep⟩ := Option.bind_eq_some_iff.mp hstep
    simp only [handshakeStep,Option.ite_none_right_eq_some,Option.some.injEq] at hstep
    obtain ⟨hp,rfl⟩ := hstep
    exact load_inv hI hi hp

theorem tokenInv_inductive :
    InductiveUnder (tokenSystem sha256 uuidOf) CommitsUnused TokenInv where
  start s := by
    rintro ⟨_,hnone⟩
    exact ⟨by simp [hnone],by simp [hnone],by simp [hnone]⟩
  step _ _ _ hI hg hstep := tokenInv_step hI hg hstep

theorem singleUse_of_inv (hI : TokenInv s) : s.SingleUse := by
  constructor
  · intro hash
    refine Nat.le_trans (List.countP_mono_left fun h _ ha => ?_) (hI.once hash)
    simp only [Handshake.admitted,Handshake.accepted,Bool.and_eq_true] at ha ⊢
    refine ⟨ha.1,?_⟩
    split at ha <;> simp_all
  · intro h hm registration hp
    have hc := hI.checked h hm
    simp only [Handshake.Checked,hp] at hc
    obtain ⟨rfl,token,htoken,hnow,haid⟩ := hc
    exact ⟨token,htoken,hnow,haid,haid⟩

end Steps

/-- While every handshake commits before another one with the same token has, a token admits one
handshake at most, in time and for its own agent. -/
theorem token_single_use {sha256 : String → String} {uuidOf : String → Option Uuid}
    {tr : List (Transition TokenState TokenEvent)} {s : TokenState}
    (h : Run (tokenSystem sha256 uuidOf) tr s) (hg : ∀ t ∈ tr, CommitsUnused t.pre t.label) :
    s.SingleUse :=
  singleUse_of_inv (h.guarded tokenInv_inductive hg)

section Examples

def sampleBearer : String := "Bearer aaaaaaaaaaaaaaaaaaaaaaaaaaaaaaaaaaaaaaaaaaaaaaaaaaaaaaaaaaaaaaaa"

def sampleRawToken : String := "aaaaaaaaaaaaaaaaaaaaaaaaaaaaaaaaaaaaaaaaaaaaaaaaaaaaaaaaaaaaaaaa"

def tokenStart : TokenState := ⟨0,fun _ => none,fun _ => true,[]⟩

/-- Both handshakes select the token before either commits. -/
def overlappingHandshakes : List TokenEvent :=
  [.issue sampleRawToken "a",.present sampleBearer "a",.present sampleBearer "a",.select 0,
    .select 1,.commit 0,.commit 1,.load 0,.load 1]

def successiveHandshakes : List TokenEvent :=
  [.issue sampleRawToken "a",.present sampleBearer "a",.present sampleBearer "a",.select 0,
    .commit 0,.select 1,.load 0]

theorem token_used_twice :
    ∃ tr s, Run (tokenSystem id some) tr s ∧
      s.handshakes.countP (Handshake.admitted sampleRawToken) = 2 ∧ ¬ s.SingleUse := by
  have hrun : (tokenSystem id some).replay tokenStart overlappingHandshakes = some _ := rfl
  have h := (Run.start (S := tokenSystem id some) ⟨rfl,rfl⟩).replay hrun
  exact ⟨_,_,h,by decide,fun hs => absurd (hs.1 sampleRawToken) (by decide)⟩

theorem token_used_once :
    ∃ tr s, Run (tokenSystem id some) tr s ∧
      s.handshakes.countP (Handshake.admitted sampleRawToken) = 1 ∧ s.SingleUse := by
  have hrun : (tokenSystem id some).replay tokenStart successiveHandshakes = some _ := rfl
  have h := (Run.start (S := tokenSystem id some) ⟨rfl,rfl⟩).replay hrun
  have hmeets : (tokenSystem id some).Meets CommitsUnused tokenStart successiveHandshakes := by
    refine ⟨trivial,trivial,trivial,trivial,?_,trivial,trivial,trivial⟩
    intro h0 hget token htoken
    obtain rfl := Option.some.inj hget
    obtain rfl := Option.some.inj htoken
    rfl
  exact ⟨_,_,h,by decide,token_single_use h (System.history_meets hmeets (by simp))⟩

end Examples
end Nexplane
