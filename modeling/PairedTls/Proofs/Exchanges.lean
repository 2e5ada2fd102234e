import PairedTls.Proofs.Answers
import PairedTls.Proofs.HeldKeys
import PairedTls.Proofs.PairedClients
import PairedTls.Proofs.TaskSteps
import PairedTls.Tls.Serving

namespace PairedTls

def ClientFlight.presented? (flight : ClientFlight) : Option Bytes :=
  flight.credentials.bind fun c => c.chain.head?

def PeerCertificate.ofPresented (presented : Option Bytes) : PeerCertificate :=
  ⟨presented.map Certificate.mk⟩

theorem PeerCertificate.ofChain_eq {der : Bytes} (h : (CertFields.decode? der).isSome = true) (more : List Bytes) :
    ofChain (der :: more) = ofPresented (some der) := by
  simp [ofChain, ofPresented, Certificate.ofDer_eq, h, Except.toOption]

theorem Verifier.decode?_of_verified {v : Verifier} {der : Bytes} {more : List Bytes} {now : Int}
    (h : v.verifyClientCert der more now = .ok ()) : (CertFields.decode? der).isSome = true := by
  rw [verifyClientCert] at h
  split at h
  · assumption
  · cases h

namespace Handshake

theorem authenticate_ok {v : Verifier} {version : TlsVersion} {now : Int} {credentials : Option Credentials}
    {peer : PeerCertificate} (h : authenticate v version now credentials = .ok peer) :
    peer = .ofPresented (credentials.bind fun c => c.chain.head?) := by
  cases credentials with
  | none =>
      rw [authenticate] at h
      split at h
      · cases h
      · exact (Except.ok.inj h).symm
  | some c =>
      obtain ⟨chain, scheme, transcript, signature⟩ := c
      cases chain with
      | nil =>
          simp only [authenticate] at h
          split at h
          · cases h
          · exact (Except.ok.inj h).symm
      | cons der more =>
          cases hverify : v.verifyClientCert der more now with
          | error fault => simp only [authenticate, hverify, bind, Except.bind] at h; cases h
          | ok _ =>
              simp only [authenticate, hverify, bind, Except.bind] at h
              split at h
              · rw [← Except.ok.inj h]
                exact PeerCertificate.ofChain_eq (Verifier.decode?_of_verified hverify) more
              · cases h

theorem complete_ok {config : TlsConfig} {now : Int} {flight : ClientFlight} {session : TlsSession}
    (h : complete config now flight = .ok session) : session.peer = .ofPresented flight.presented? := by
  rw [complete] at h
  cases hprotocol : chooseProtocol config.protocols flight.protocols with
  | error fault => rw [hprotocol] at h; cases h
  | ok protocol =>
      rw [hprotocol] at h
      cases hpeer : authenticate config.verifier flight.version now flight.credentials with
      | error fault => simp only [hpeer, bind, Except.bind] at h; cases h
      | ok peer =>
          simp only [hpeer, bind, Except.bind] at h
          rw [← Except.ok.inj h]
          exact authenticate_ok hpeer

end Handshake

theorem Listener.outcome_session {l : Listener} {now : Int} {flight : ClientFlight} {peer : PeerCertificate}
    (h : l.outcome now flight = .session peer) : peer = .ofPresented flight.presented? := by
  rw [outcome] at h
  split at h
  · next session hsession => cases h; exact Handshake.complete_ok hsession
  · cases h

namespace Exchange

/-- What happens on a connection and to the paired clients. A step of the connection can meet any state of its
listener. -/
inductive Event where
  | move (l : Lifecycle) (m : ConnectionTask.Move)
  | request (method : String) (path : Bytes)
  | pair (c : Certificate)
  | unpair (c : Certificate)
  deriving DecidableEq

structure State where
  task : ConnectionTask
  paired : PairedClients

structure Answered where
  request : Request
  paired : PairedClients
  response : Response

def step? (cert : Certificate) (s : State) : Event → Option (State × List Answered)
  | .move l m => (s.task.step? l m).map fun (t, _) => ({ s with task := t }, [])
  | .request method path => do
    let request ← s.task.request? method path
    let response ← s.task.answer? ⟨cert, s.paired⟩ method path
    return (s, [⟨request, s.paired, response⟩])
  | .pair c => some ({ s with paired := (s.paired.pair c).2 }, [])
  | .unpair c => some ({ s with paired := (s.paired.unpair c).2 }, [])

def run? (cert : Certificate) (s : State) : List Event → Option (State × List Answered)
  | [] => some (s, [])
  | e :: rest => do
    let (s, now) ← step? cert s e
    let (s, later) ← run? cert s rest
    return (s, now ++ later)

/-- A session that a client has with a listener: its peer, and the end entity that the client presented. One that is
taken up again is still the session of its full handshake. -/
inductive Begun (listeners : Nat → Listener) : Nat → PeerCertificate → Option Bytes → Prop
  | full {i : Nat} {now : Int} {flight : ClientFlight} {peer : PeerCertificate}
      (h : (listeners i).outcome now flight = .session peer) : Begun listeners i peer flight.presented?
  | resumed {i j : Nat} {peer : PeerCertificate} {presented : Option Bytes} (h : Begun listeners i peer presented)
      (hresumes : Handshake.resumes (some i) j = true) : Begun listeners j peer presented

theorem Begun.peer_eq {listeners : Nat → Listener} {i : Nat} {peer : PeerCertificate} {presented : Option Bytes}
    (h : Begun listeners i peer presented) : peer = .ofPresented presented := by
  induction h with
  | full h => exact Listener.outcome_session h
  | resumed _ _ ih => exact ih

/-- A handshake is decided by the session that it leads to, or by the time that it takes. -/
def Event.Fits (peer : PeerCertificate) : Event → Prop
  | .move _ (.decide o) => o = .session peer ∨ o = .timedOut
  | _ => True

def Event.concerns (presented : Option Bytes) : Event → Bool
  | .pair c => presented == some c.der
  | .unpair c => presented == some c.der
  | _ => true

/-- Two sets of clients that a client cannot tell apart. -/
def Alike (presented : Option Bytes) (p q : PairedClients) : Prop :=
  ∀ der, presented = some der → (⟨der⟩ ∈ p.certs ↔ ⟨der⟩ ∈ q.certs)

/-- The answer to a client that asks for server information. -/
def verdict (cert : Certificate) (paired : PairedClients) : Option Bytes → Response
  | none =>
    Api.jsonResponse 401 ("\x7b\"paired\":false,\"status_code\":401,\"status_message\":" ++
      "\"The client is not authorized. No client certificate presented.\"\x7d")
  | some der =>
    if ⟨der⟩ ∈ paired.certs then
      Api.jsonResponse 200 ("\x7b\"paired\":true,\"server_fingerprint\":\"" ++ cert.fingerprint ++ "\"\x7d")
    else
      Api.jsonResponse 401 ("\x7b\"paired\":false,\"status_code\":401,\"status_message\":" ++
        "\"The client is not authorized. Certificate verification failed.\"\x7d")

def Carries (peer : PeerCertificate) : ConnectionTask.Stage → Prop
  | .decided o | .unguarded o | .registered o | .admitted o => o = .session peer ∨ o = .timedOut
  | .established p | .serving p _ _ | .draining p | .retiring p => p = peer
  | _ => True

theorem carries_step {peer : PeerCertificate} {timeout : Duration} {l l' : Lifecycle}
    {stage stage' : ConnectionTask.Stage} {m : ConnectionTask.Move} {next : Option ConnectionState}
    {r : Option ConnectionError} (hstep : ConnectionTask.Step timeout l stage m stage' next l' r)
    (hfits : (Event.move l m).Fits peer) (h : Carries peer stage) : Carries peer stage' := by
  cases hstep with
  | decide o => exact hfits
  | establish p =>
      rcases h with h | h
      · cases h; rfl
      · cases h
  | release _ | register _ | grant _ _ | read _ _ | act _ _ _ _ _ | sleep _ _ _ _ _ _ | retire _ _ _ _ _
  | drain _ _ _ _ =>
      exact h
  | start | abandon _ | refuse _ _ | fail _ | expire | report _ | overflow _ _ _ _ _ | serve _ _ _ _ _
  | finish _ _ _ | close _ _ | leave _ | vanish =>
      trivial

theorem carries_move {peer : PeerCertificate} {l : Lifecycle} {t : ConnectionTask} {m : ConnectionTask.Move}
    {result : ConnectionTask × Lifecycle × Option ConnectionError} (hstep : t.step? l m = some result)
    (hfits : (Event.move l m).Fits peer) (h : Carries peer t.stage) : Carries peer result.1.stage := by
  obtain ⟨t', l', r⟩ := result
  obtain ⟨next, hstep, _⟩ := ConnectionTask.step?_cases hstep
  exact carries_step hstep hfits h

theorem request?_eq {t : ConnectionTask} {peer : PeerCertificate} {method : String} {path : Bytes} {request : Request}
    (h : t.request? method path = some request) (hcarries : Carries peer t.stage) :
    request = ⟨method, path, some peer⟩ := by
  rw [ConnectionTask.request?] at h
  split at h
  · next p _ _ hstage =>
      rw [hstage] at hcarries
      cases hcarries
      exact (Option.some.inj h).symm
  · next p hstage =>
      rw [hstage] at hcarries
      cases hcarries
      exact (Option.some.inj h).symm
  · next p hstage =>
      rw [hstage] at hcarries
      cases hcarries
      exact (Option.some.inj h).symm
  · cases h

open PairedClients (mem_pair mem_unpair)

theorem alike_pair {presented : Option Bytes} {p q : PairedClients} (h : Alike presented p q) (c : Certificate) :
    Alike presented (p.pair c).2 (q.pair c).2 := by
  intro der hder
  rw [mem_pair, mem_pair, h der hder]

theorem alike_unpair {presented : Option Bytes} {p q : PairedClients} (h : Alike presented p q) (c : Certificate) :
    Alike presented (p.unpair c).2 (q.unpair c).2 := by
  intro der hder
  rw [mem_unpair, mem_unpair, h der hder]

theorem alike_pair_other {presented : Option Bytes} {p q : PairedClients} (h : Alike presented p q) {c : Certificate}
    (hother : presented ≠ some c.der) : Alike presented (p.pair c).2 q := by
  intro der hder
  have hne : (⟨der⟩ : Certificate) ≠ c := fun hc => hother (hc ▸ hder)
  rw [mem_pair, h der hder]
  exact or_iff_right hne

theorem alike_unpair_other {presented : Option Bytes} {p q : PairedClients} (h : Alike presented p q) {c : Certificate}
    (hother : presented ≠ some c.der) : Alike presented (p.unpair c).2 q := by
  intro der hder
  have hne : (⟨der⟩ : Certificate) ≠ c := fun hc => hother (hc ▸ hder)
  rw [mem_unpair, h der hder]
  exact and_iff_right hne

theorem evaluate_ofPresented (paired : PairedClients) (presented : Option Bytes) :
    paired.evaluate (PeerCertificate.ofPresented presented).get =
      match presented with
      | none => .anonymous
      | some der => if ⟨der⟩ ∈ paired.certs then .trusted else .untrusted := by
  cases presented with
  | none => rfl
  | some der =>
      by_cases h : (⟨der⟩ : Certificate) ∈ paired.certs
      · simp [PeerCertificate.ofPresented, PeerCertificate.get, PairedClients.evaluate, PairedClients.isTrusted, h]
      · simp [PeerCertificate.ofPresented, PeerCertificate.get, PairedClients.evaluate, PairedClients.isTrusted, h]

theorem response_serverInfo (cert : Certificate) (paired : PairedClients) (presented : Option Bytes) :
    (Api.serverInfo ⟨cert, paired⟩ (.ofPresented presented)).response true = verdict cert paired presented := by
  have hnone : Api.noCertificate.toList.all JsonText.plain = true := rfl
  have hfailed : Api.verificationFailed.toList.all JsonText.plain = true := rfl
  rw [Api.serverInfo, evaluate_ofPresented]
  cases presented with
  | none => exact Api.response_refused hnone
  | some der =>
      rw [verdict]
      by_cases h : (⟨der⟩ : Certificate) ∈ paired.certs
      · simp only [h, if_true]
        exact Api.response_trusted cert
      · simp only [h, if_false]
        exact Api.response_refused hfailed

theorem serverInfo_alike {presented : Option Bytes} {p q : PairedClients} (h : Alike presented p q)
    (cert : Certificate) :
    Api.serverInfo ⟨cert, p⟩ (.ofPresented presented) = Api.serverInfo ⟨cert, q⟩ (.ofPresented presented) := by
  have hevaluate : p.evaluate (PeerCertificate.ofPresented presented).get =
      q.evaluate (PeerCertificate.ofPresented presented).get := by
    rw [evaluate_ofPresented, evaluate_ofPresented]
    cases presented with
    | none => rfl
    | some der => simp only [h der rfl]
  rw [Api.serverInfo, Api.serverInfo, hevaluate]

theorem answer_alike {presented : Option Bytes} {p q : PairedClients} (h : Alike presented p q) (cert : Certificate)
    (method : String) (path : Bytes) :
    Api.answer ⟨cert, p⟩ ⟨method, path, some (.ofPresented presented)⟩ =
      Api.answer ⟨cert, q⟩ ⟨method, path, some (.ofPresented presented)⟩ := by
  have hcontent : ∀ route, Api.content ⟨cert, p⟩ (.ofPresented presented) route =
      Api.content ⟨cert, q⟩ (.ofPresented presented) route := by
    intro route
    cases route with
    | health => rfl
    | serverInfo => exact serverInfo_alike h cert
    | publicKey => rfl
  simp only [Api.answer, PeerCertificate.ofRequest, Option.getD_some, hcontent]

theorem answer_serverInfo {app : AppState} {r : Request} {peer : PeerCertificate} (hpeer : r.peer = some peer)
    (hmethod : r.method = "GET") (hpath : r.path = Bytes.ofString "/serverinfo") :
    Api.answer app r = (Api.serverInfo app peer).response true := by
  have hroute : Route.ofPath? (Bytes.ofString "/serverinfo") = some .serverInfo := by decide +kernel
  obtain ⟨method, path, attached⟩ := r
  subst hpeer hmethod hpath
  simp only [Api.answer, hroute, Api.content, PeerCertificate.ofRequest, Option.getD_some]
  rfl

variable {cert : Certificate} {presented : Option Bytes} {peer : PeerCertificate}

theorem run?_cons {s s' : State} {e : Event} {rest : List Event} {out : List Answered}
    (h : run? cert s (e :: rest) = some (s', out)) :
    ∃ middle now later, step? cert s e = some (middle, now) ∧ run? cert middle rest = some (s', later) ∧
      out = now ++ later := by
  obtain ⟨⟨middle, now⟩, hstep, h⟩ := Option.bind_eq_some_iff.1 h
  obtain ⟨⟨s', later⟩, hrest, h⟩ := Option.bind_eq_some_iff.1 h
  cases h
  exact ⟨middle, now, later, hstep, hrest, rfl⟩

theorem run?_cons_of {s middle s' : State} {e : Event} {rest : List Event} {now later : List Answered}
    (hstep : step? cert s e = some (middle, now)) (hrest : run? cert middle rest = some (s', later)) :
    run? cert s (e :: rest) = some (s', now ++ later) := by
  simp [run?, hstep, hrest]

theorem run?_move {l l' : Lifecycle} {t t' : ConnectionTask} {m : ConnectionTask.Move} {r : Option ConnectionError}
    (h : t.step? l m = some (t', l', r)) (paired : PairedClients) (rest : List Event) :
    run? cert ⟨t, paired⟩ (.move l m :: rest) = run? cert ⟨t', paired⟩ rest := by
  simp [run?, step?, h]

theorem step?_carries {s s' : State} {e : Event} {now : List Answered} (hstep : step? cert s e = some (s', now))
    (hfits : e.Fits peer) (h : Carries peer s.task.stage) : Carries peer s'.task.stage := by
  cases e with
  | move l m =>
      obtain ⟨result, hmove, hs⟩ := Option.map_eq_some_iff.1 hstep
      cases hs
      exact carries_move hmove hfits h
  | request method path =>
      obtain ⟨request, _, hstep⟩ := Option.bind_eq_some_iff.1 hstep
      obtain ⟨response, _, hstep⟩ := Option.bind_eq_some_iff.1 hstep
      cases hstep
      exact h
  | pair c => cases hstep; exact h
  | unpair c => cases hstep; exact h

theorem step?_answered {s s' : State} {e : Event} {now : List Answered} (hstep : step? cert s e = some (s', now))
    (h : Carries peer s.task.stage) {a : Answered} (ha : a ∈ now) :
    a.request.peer = some peer ∧ a.response = Api.answer ⟨cert, a.paired⟩ a.request := by
  cases e with
  | move l m =>
      obtain ⟨result, _, hs⟩ := Option.map_eq_some_iff.1 hstep
      cases hs
      cases ha
  | request method path =>
      obtain ⟨request, hrequest, hstep⟩ := Option.bind_eq_some_iff.1 hstep
      obtain ⟨response, hresponse, hstep⟩ := Option.bind_eq_some_iff.1 hstep
      cases hstep
      obtain rfl := List.mem_singleton.1 ha
      rw [ConnectionTask.answer?, hrequest] at hresponse
      obtain rfl := request?_eq hrequest h
      exact ⟨rfl, (Option.some.inj hresponse).symm⟩
  | pair c => cases hstep; cases ha
  | unpair c => cases hstep; cases ha

theorem run?_answered {events : List Event} {s s' : State} {out : List Answered}
    (hrun : run? cert s events = some (s', out)) (hfits : ∀ e ∈ events, e.Fits peer)
    (h : Carries peer s.task.stage) {a : Answered} (ha : a ∈ out) :
    a.request.peer = some peer ∧ a.response = Api.answer ⟨cert, a.paired⟩ a.request := by
  induction events generalizing s out with
  | nil => cases hrun; cases ha
  | cons e rest ih =>
      obtain ⟨middle, now, later, hstep, hrest, rfl⟩ := run?_cons hrun
      rw [List.mem_append] at ha
      rcases ha with ha | ha
      · exact step?_answered hstep h ha
      · apply ih hrest
        · intro e' he'
          exact hfits e' (List.mem_cons_of_mem e he')
        · exact step?_carries hstep (hfits e List.mem_cons_self) h
        · exact ha

theorem concerns_pair {c : Certificate} : (Event.pair c).concerns presented = true ↔ presented = some c.der :=
  beq_iff_eq

theorem concerns_unpair {c : Certificate} : (Event.unpair c).concerns presented = true ↔ presented = some c.der :=
  beq_iff_eq

theorem run?_filter {events : List Event} {t : ConnectionTask} {p q : PairedClients} {s : State} {out : List Answered}
    (hrun : run? cert ⟨t, p⟩ events = some (s, out)) (hfits : ∀ e ∈ events, e.Fits (.ofPresented presented))
    (h : Carries (.ofPresented presented) t.stage) (halike : Alike presented p q) :
    ∃ s' out', run? cert ⟨t, q⟩ (events.filter (·.concerns presented)) = some (s', out') ∧
      out'.map Answered.response = out.map Answered.response := by
  -- The task is the same in both runs; of the two sets, only what the client can tell of them.
  induction events generalizing t p q out with
  | nil => cases hrun; exact ⟨_, [], rfl, rfl⟩
  | cons e rest ih =>
      have hrestfits : ∀ e' ∈ rest, e'.Fits (.ofPresented presented) := fun e' he' => hfits e' (List.mem_cons_of_mem e he')
      have hefits := hfits e List.mem_cons_self
      obtain ⟨middle, now, later, hstep, hrest, rfl⟩ := run?_cons hrun
      cases e with
      | move l m =>
          obtain ⟨result, hmove, hs⟩ := Option.map_eq_some_iff.1 hstep
          cases hs
          obtain ⟨s', out', hrun', hout⟩ := ih hrest hrestfits (carries_move hmove hefits h) halike
          have hstep' : step? cert ⟨t, q⟩ (.move l m) = some (⟨result.1, q⟩, []) := by simp [step?, hmove]
          exact ⟨s', [] ++ out', run?_cons_of hstep' hrun', hout⟩
      | request method path =>
          obtain ⟨request, hrequest, hstep⟩ := Option.bind_eq_some_iff.1 hstep
          obtain ⟨response, hresponse, hstep⟩ := Option.bind_eq_some_iff.1 hstep
          cases hstep
          obtain ⟨s', out', hrun', hout⟩ := ih hrest hrestfits h halike
          have hpeer := request?_eq hrequest h
          have hanswer : t.answer? ⟨cert, q⟩ method path = some response := by
            rw [ConnectionTask.answer?, hrequest, hpeer] at hresponse ⊢
            exact (congrArg some (answer_alike halike cert method path).symm).trans hresponse
          have hstep' : step? cert ⟨t, q⟩ (.request method path) = some (⟨t, q⟩, [⟨request, q, response⟩]) := by
            simp [step?, hrequest, hanswer]
          refine ⟨s', [⟨request, q, response⟩] ++ out', run?_cons_of hstep' hrun', ?_⟩
          simp [hout]
      | pair c =>
          cases hstep
          by_cases hc : presented = some c.der
          · obtain ⟨s', out', hrun', hout⟩ := ih hrest hrestfits h (alike_pair halike c)
            rw [List.filter_cons_of_pos (concerns_pair.2 hc)]
            exact ⟨s', [] ++ out', run?_cons_of rfl hrun', hout⟩
          · rw [List.filter_cons_of_neg (mt concerns_pair.1 hc)]
            exact ih hrest hrestfits h (alike_pair_other halike hc)
      | unpair c =>
          cases hstep
          by_cases hc : presented = some c.der
          · obtain ⟨s', out', hrun', hout⟩ := ih hrest hrestfits h (alike_unpair halike c)
            rw [List.filter_cons_of_pos (concerns_unpair.2 hc)]
            exact ⟨s', [] ++ out', run?_cons_of rfl hrun', hout⟩
          · rw [List.filter_cons_of_neg (mt concerns_unpair.1 hc)]
            exact ih hrest hrestfits h (alike_unpair_other halike hc)

/-- One peer for the whole connection, the one that was presented; server information is for it alone if it is
paired at that moment, and other clients make no difference. -/
theorem peer_of_requests {listeners : Nat → Listener} {i : Nat} {peer : PeerCertificate} {presented : Option Bytes}
    (hbegun : Begun listeners i peer presented) (info : ConnectionInfo) (timeout : Duration) (cert : Certificate) :
    peer.cert = presented.map Certificate.mk ∧
      (∀ (verifier : Verifier) der more now, verifier.verifyClientCert der more now = .ok () →
        PeerCertificate.ofChain (der :: more) = ⟨some ⟨der⟩⟩) ∧
      ∀ paired events s out, (∀ e ∈ events, e.Fits peer) →
        run? cert ⟨.spawned info timeout, paired⟩ events = some (s, out) →
          (∀ a ∈ out, a.request.peer = some peer ∧
            (a.request.method = "GET" → a.request.path = Bytes.ofString "/serverinfo" →
              a.response = verdict cert a.paired presented)) ∧
          ∀ paired' events' s' out', (∀ e ∈ events', e.Fits peer) →
            run? cert ⟨.spawned info timeout, paired'⟩ events' = some (s', out') →
              Alike presented paired paired' →
                events.filter (·.concerns presented) = events'.filter (·.concerns presented) →
                  out.map Answered.response = out'.map Answered.response := by
  obtain rfl := hbegun.peer_eq
  refine ⟨rfl, ?_, ?_⟩
  · intro verifier der more now hverify
    exact PeerCertificate.ofChain_eq (Verifier.decode?_of_verified hverify) more
  · intro paired events s out hfits hrun
    constructor
    · intro a ha
      obtain ⟨hrequest, hresponse⟩ := run?_answered hrun hfits trivial ha
      refine ⟨hrequest, ?_⟩
      intro hmethod hpath
      rw [hresponse, answer_serverInfo hrequest hmethod hpath, response_serverInfo]
    · intro paired' events' s' out' hfits' hrun' halike hsame
      obtain ⟨s₁, out₁, hrun₁, hout₁⟩ := run?_filter hrun hfits trivial halike
      obtain ⟨s₂, out₂, hrun₂, hout₂⟩ := run?_filter hrun' hfits' trivial fun _ _ => Iff.rfl
      rw [hsame, hrun₂] at hrun₁
      cases hrun₁
      exact hout₁.symm.trans hout₂

def openListener : Listener :=
  ⟨⟨.v4 127 0 0 1, 0, 8443⟩,
    ⟨[], .ecdsa ⟨Ecdsa.p256, 1⟩, ⟨.optional⟩, TlsConfig.preferredProtocols, none⟩, .default⟩

def rsaCertificate (key : Rsa.PrivateKey) : Certificate :=
  .unsigned (.rsa key)

def rsaFlight (key : Rsa.PrivateKey) (signature : Bytes) : ClientFlight :=
  ⟨.v12, [], some ⟨[(rsaCertificate key).der], 0x0401, [], signature⟩⟩

theorem outcome_rsaFlight {key : Rsa.PrivateKey} {signature : Bytes} (husable : key.usable = true)
    (hverify : openListener.config.verifier.verifySignature .v12 [] (rsaCertificate key).der 0x0401 signature =
      .ok ()) :
    openListener.outcome 0 (rsaFlight key signature) = .session ⟨some (rsaCertificate key)⟩ := by
  have hdecode : (CertFields.decode? (rsaCertificate key).der).isSome = true := by
    have hkey : (KeyPair.rsa key).Usable := husable
    obtain ⟨f, hf, _⟩ := Certificate.decode?_unsigned hkey
    rw [rsaCertificate, hf]
    rfl
  have hclient : openListener.config.verifier.verifyClientCert (rsaCertificate key).der [] 0 = .ok () :=
    if_pos hdecode
  have hpeer := PeerCertificate.ofChain_eq hdecode []
  rw [Listener.outcome, Handshake.complete]
  simp only [rsaFlight, Handshake.chooseProtocol, Handshake.authenticate, hclient, hverify, hpeer, bind, Except.bind]
  rfl

theorem presented_rsaFlight (key : Rsa.PrivateKey) (signature : Bytes) :
    (rsaFlight key signature).presented? = some (rsaCertificate key).der :=
  rfl

theorem exists_rsaFlight : ∃ key signature,
    openListener.outcome 0 (rsaFlight key signature) = .session ⟨some (rsaCertificate key)⟩ := by
  have hverifies : (Certificate.fixedKey?.bind fun key => (key.sign? .sha256 []).map fun signature =>
      openListener.config.verifier.verifySignature .v12 [] (rsaCertificate key).der 0x0401 signature) =
        some (.ok ()) := by decide +kernel
  obtain ⟨key, hkey, hverifies⟩ := Option.bind_eq_some_iff.1 hverifies
  obtain ⟨signature, _, hverify⟩ := Option.map_eq_some_iff.1 hverifies
  exact ⟨key, signature, outcome_rsaFlight (ServerKey.usable_of_ofPrimes? hkey) hverify⟩

def asks (c : Certificate) : List Event :=
  let ask := Event.request "GET" (Bytes.ofString "/serverinfo")
  [.move .start .start, .move .start (.decide (.session ⟨some c⟩)), .move .start .release, .move .start .register,
   .move .start .test, .move .start .settle, .move .start (.read ⟨0⟩), ask, .pair c, ask, .unpair c, ask]

def clientInfo : ConnectionInfo :=
  ⟨1, openListener.address, openListener.address⟩

def asked (c : Certificate) : List Answered :=
  let ask : Request := ⟨"GET", Bytes.ofString "/serverinfo", some ⟨some c⟩⟩
  let added := (PairedClients.empty.pair c).2
  [.empty, added, (added.unpair c).2].map fun paired => ⟨ask, paired, Api.answer ⟨c, paired⟩ ask⟩

theorem request_of_asked {c : Certificate} {a : Answered} (ha : a ∈ asked c) :
    a.request.method = "GET" ∧ a.request.path = Bytes.ofString "/serverinfo" := by
  obtain ⟨paired, _, rfl⟩ := List.mem_map.1 ha
  exact ⟨rfl, rfl⟩

theorem run?_asks (c : Certificate) (timeout : Duration) :
    ∃ s, run? c ⟨.spawned clientInfo timeout, .empty⟩ (asks c) = some (s, asked c) := by
  let serving : ConnectionTask := ⟨⟨clientInfo, .reading⟩, timeout, .serving ⟨some c⟩ (.start ⟨0⟩) ⟨0⟩, []⟩
  have hask : ∀ paired, step? c ⟨serving, paired⟩ (.request "GET" (Bytes.ofString "/serverinfo")) =
      some (⟨serving, paired⟩, [⟨⟨"GET", Bytes.ofString "/serverinfo", some ⟨some c⟩⟩, paired,
        Api.answer ⟨c, paired⟩ ⟨"GET", Bytes.ofString "/serverinfo", some ⟨some c⟩⟩⟩]) := fun _ => rfl
  have hpair : ∀ paired, step? c ⟨serving, paired⟩ (.pair c) = some (⟨serving, (paired.pair c).2⟩, []) := fun _ => rfl
  have hunpair : ∀ paired, step? c ⟨serving, paired⟩ (.unpair c) = some (⟨serving, (paired.unpair c).2⟩, []) :=
    fun _ => rfl
  have hend : ∀ paired, run? c ⟨serving, paired⟩ [] = some (⟨serving, paired⟩, []) := fun _ => rfl
  have hasked := run?_cons_of (hask .empty) (run?_cons_of (hpair _) (run?_cons_of (hask _) (run?_cons_of (hunpair _)
    (run?_cons_of (hask _) (hend _)))))
  exact ⟨_, (run?_move rfl _ _).trans ((run?_move rfl _ _).trans ((run?_move rfl _ _).trans ((run?_move rfl _ _).trans
    ((run?_move rfl _ _).trans ((run?_move rfl _ _).trans ((run?_move rfl _ _).trans hasked))))))⟩

theorem fits_asks {c : Certificate} {e : Event} (he : e ∈ asks c) : e.Fits ⟨some c⟩ := by
  simp only [asks, List.mem_cons, List.not_mem_nil, or_false] at he
  rcases he with rfl | rfl | rfl | rfl | rfl | rfl | rfl | rfl | rfl | rfl | rfl | rfl
  all_goals first
    | trivial
    | exact .inl rfl

theorem peer_of_requests_client : ∃ (c : Certificate) (s : State),
    Begun (fun _ => openListener) 0 ⟨some c⟩ (some c.der) ∧
      run? c ⟨.spawned clientInfo ServerOptions.default.requestTimeout, .empty⟩ (asks c) = some (s, asked c) ∧
        ∀ a ∈ asked c, a.request.peer = some ⟨some c⟩ ∧ a.response = verdict c a.paired (some c.der) := by
  obtain ⟨key, signature, houtcome⟩ := exists_rsaFlight
  have hbegun : Begun (fun _ => openListener) 0 ⟨some (rsaCertificate key)⟩ (some (rsaCertificate key).der) := by
    rw [← presented_rsaFlight key signature]
    have hfull : Begun (fun _ => openListener) 0 _ (rsaFlight key signature).presented? := .full houtcome
    exact .resumed hfull rfl
  obtain ⟨s, hrun⟩ := run?_asks (rsaCertificate key) ServerOptions.default.requestTimeout
  obtain ⟨_, _, hruns⟩ := peer_of_requests hbegun clientInfo ServerOptions.default.requestTimeout (rsaCertificate key)
  obtain ⟨hanswers, _⟩ := hruns _ _ _ _ (fun _ => fits_asks) hrun
  refine ⟨rsaCertificate key, s, hbegun, hrun, ?_⟩
  intro a ha
  obtain ⟨hpeer, hresponse⟩ := hanswers a ha
  obtain ⟨hmethod, hpath⟩ := request_of_asked ha
  exact ⟨hpeer, hresponse hmethod hpath⟩

end Exchange
end PairedTls
