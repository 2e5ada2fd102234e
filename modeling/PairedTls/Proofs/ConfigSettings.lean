import PairedTls.Config.Decode
import PairedTls.Proofs.Acts
import PairedTls.Proofs.ConfigMerge

namespace PairedTls.Config

inductive Section where
  | server
  | identity
  deriving DecidableEq, Repr

inductive Setting where
  | host
  | port
  | handshakeTimeout
  | requestTimeout
  | requireClientCert
  | sessionIdContext
  | keyPath
  | certPath
  | pairedCerts
  deriving DecidableEq, Repr

def Section.name : Section → String
  | .server => "server"
  | .identity => "identity"

theorem Section.eq_of_name {p q : Section} (h : p.name = q.name) : p = q := by
  cases p <;> cases q <;> first | rfl | exact absurd h (by decide)

namespace Setting

def all : List Setting :=
  [.host, .port, .handshakeTimeout, .requestTimeout, .requireClientCert, .sessionIdContext, .keyPath, .certPath,
    .pairedCerts]

theorem mem_all (s : Setting) : s ∈ all := by
  cases s <;> decide

def home : Setting → Section
  | .keyPath | .certPath | .pairedCerts => .identity
  | _ => .server

def field : Setting → String
  | .host => "host"
  | .port => "port"
  | .handshakeTimeout => "handshake_timeout"
  | .requestTimeout => "request_timeout"
  | .requireClientCert => "require_client_cert"
  | .sessionIdContext => "session_id_context"
  | .keyPath => "key_path"
  | .certPath => "cert_path"
  | .pairedCerts => "paired_certs"

def index : Setting → Nat
  | .host => 0
  | .port => 1
  | .handshakeTimeout => 2
  | .requestTimeout => 3
  | .requireClientCert => 4
  | .sessionIdContext => 5
  | .keyPath => 0
  | .certPath => 1
  | .pairedCerts => 2

abbrev Kind : Setting → Type
  | .host | .keyPath | .certPath => String
  | .port => UInt16
  | .handshakeTimeout | .requestTimeout => Duration
  | .requireClientCert | .sessionIdContext => Bool
  | .pairedCerts => List String

def get : (s : Setting) → Config → s.Kind
  | .host, c => c.server.host
  | .port, c => c.server.port
  | .handshakeTimeout, c => c.server.handshakeTimeout
  | .requestTimeout, c => c.server.requestTimeout
  | .requireClientCert, c => c.server.requireClientCert
  | .sessionIdContext, c => c.server.sessionIdContext
  | .keyPath, c => c.identity.keyPath
  | .certPath, c => c.identity.certPath
  | .pairedCerts, c => c.identity.pairedCerts

def decode : (s : Setting) → Decoder s.Kind
  | .host => Decoder.string
  | .port => Decoder.port
  | .handshakeTimeout | .requestTimeout => Decoder.duration
  | .requireClientCert | .sessionIdContext => Decoder.bool
  | .keyPath | .certPath => Decoder.path
  | .pairedCerts => Decoder.list Decoder.path

/-- What is known of a setting, or what it is when nothing is. -/
def settle (s : Setting) (known : Option Value) : Except FieldFault s.Kind :=
  known.elim (.ok (s.get Config.default)) s.decode

theorem ext {c c' : Config} (h : ∀ s : Setting, s.get c = s.get c') : c = c' := by
  have hserver : c.server = c'.server :=
    ServerConfig.mk.injEq .. ▸
      ⟨h .host, h .port, h .handshakeTimeout, h .requestTimeout, h .requireClientCert, h .sessionIdContext⟩
  have hidentity : c.identity = c'.identity :=
    IdentityConfig.mk.injEq .. ▸ ⟨h .keyPath, h .certPath, h .pairedCerts⟩
  exact Config.mk.injEq .. ▸ ⟨hserver, hidentity⟩

def within? (s : Setting) : Value → Option Value
  | .map _ ms => ms.lookup s.field
  | .list _ xs => xs[s.index]?
  | .scalar .. => none

def inFile? (s : Setting) (file : Value) : Option Value :=
  (file.member? s.home.name).bind s.within?

theorem decode_overlay (s : Setting) (earlier : Option Value) (v : Value) :
    s.decode (Value.overlay earlier v) = s.decode v := by
  cases earlier with
  | none => rfl
  | some w =>
      by_cases hmap : ∃ source ms, v = .map source ms
      · -- A map is merged with what was there, but no setting is a map.
        obtain ⟨source, ms, rfl⟩ := hmap
        obtain ⟨ms', hmerge⟩ := Value.merge_map w source ms
        rw [Value.overlay, hmerge]
        cases s <;> rfl
      · rw [Value.overlay, Value.merge_of_not_map w fun source ms hv => hmap ⟨source, ms, hv⟩]

theorem exists_config (f : (s : Setting) → s.Kind) : ∃ c : Config, ∀ s : Setting, s.get c = f s :=
  ⟨⟨⟨f .host, f .port, f .handshakeTimeout, f .requestTimeout, f .requireClientCert, f .sessionIdContext⟩,
    ⟨f .keyPath, f .certPath, f .pairedCerts⟩⟩, fun s => by cases s <;> rfl⟩

end Setting

def Sectioned (ms : List (String × Value)) : Prop :=
  ∀ (p : Section) (source : Source) (x : Scalar), ms.lookup p.name ≠ some (.scalar source x)

namespace Decoder

variable {α : Type} {name : String} {read : Decoder α} {missing a : α} {v : Value} {c : Config}

theorem under_eq_ok {r : Except FieldFault α} : under name r = .ok a ↔ r = .ok a := by
  cases r <;> simp [under]

theorem member_eq_ok {ms : List (String × Value)} :
    member ms name read missing = .ok a ↔ (ms.lookup name).elim (.ok missing) read = .ok a := by
  unfold member
  cases ms.lookup name with
  | none => rfl
  | some v => exact under_eq_ok

theorem entry_eq_ok {xs : List Value} {index : Nat} :
    entry xs index read missing = .ok a ↔ (xs[index]?).elim (.ok missing) read = .ok a := by
  unfold entry
  cases xs[index]? with
  | none => rfl
  | some v => exact under_eq_ok

theorem server_settles {sc : ServerConfig} (h : server .ignored v = .ok sc) (i : IdentityConfig) {s : Setting}
    (hs : s.home = .server) : s.settle (s.within? v) = .ok (s.get ⟨sc, i⟩) := by
  cases v with
  | scalar => cases h
  | map source ms =>
      obtain ⟨_, hhandshake, h⟩ := bind_eq_ok h
      obtain ⟨_, hhost, h⟩ := bind_eq_ok h
      obtain ⟨_, hport, h⟩ := bind_eq_ok h
      obtain ⟨_, hrequest, h⟩ := bind_eq_ok h
      obtain ⟨_, hrequire, h⟩ := bind_eq_ok h
      obtain ⟨_, hcontext, h⟩ := bind_eq_ok h
      cases h
      cases s with
      | host => exact member_eq_ok.1 hhost
      | port => exact member_eq_ok.1 hport
      | handshakeTimeout => exact member_eq_ok.1 hhandshake
      | requestTimeout => exact member_eq_ok.1 hrequest
      | requireClientCert => exact member_eq_ok.1 hrequire
      | sessionIdContext => exact member_eq_ok.1 hcontext
      | keyPath | certPath | pairedCerts => cases hs
  | list source xs =>
      obtain ⟨_, hhost, h⟩ := bind_eq_ok h
      obtain ⟨_, hport, h⟩ := bind_eq_ok h
      obtain ⟨_, hhandshake, h⟩ := bind_eq_ok h
      obtain ⟨_, hrequest, h⟩ := bind_eq_ok h
      obtain ⟨_, hrequire, h⟩ := bind_eq_ok h
      obtain ⟨_, hcontext, h⟩ := bind_eq_ok h
      obtain ⟨_, -, h⟩ := bind_eq_ok h
      cases h
      cases s with
      | host => exact entry_eq_ok.1 hhost
      | port => exact entry_eq_ok.1 hport
      | handshakeTimeout => exact entry_eq_ok.1 hhandshake
      | requestTimeout => exact entry_eq_ok.1 hrequest
      | requireClientCert => exact entry_eq_ok.1 hrequire
      | sessionIdContext => exact entry_eq_ok.1 hcontext
      | keyPath | certPath | pairedCerts => cases hs

theorem identity_settles {ic : IdentityConfig} (h : identity .ignored v = .ok ic) (sc : ServerConfig) {s : Setting}
    (hs : s.home = .identity) : s.settle (s.within? v) = .ok (s.get ⟨sc, ic⟩) := by
  cases v with
  | scalar => cases h
  | map source ms =>
      obtain ⟨_, hcert, h⟩ := bind_eq_ok h
      obtain ⟨_, hkey, h⟩ := bind_eq_ok h
      obtain ⟨_, hpaired, h⟩ := bind_eq_ok h
      cases h
      cases s with
      | keyPath => exact member_eq_ok.1 hkey
      | certPath => exact member_eq_ok.1 hcert
      | pairedCerts => exact member_eq_ok.1 hpaired
      | host | port | handshakeTimeout | requestTimeout | requireClientCert | sessionIdContext => cases hs
  | list source xs =>
      obtain ⟨_, hkey, h⟩ := bind_eq_ok h
      obtain ⟨_, hcert, h⟩ := bind_eq_ok h
      obtain ⟨_, hpaired, h⟩ := bind_eq_ok h
      obtain ⟨_, -, h⟩ := bind_eq_ok h
      cases h
      cases s with
      | keyPath => exact entry_eq_ok.1 hkey
      | certPath => exact entry_eq_ok.1 hcert
      | pairedCerts => exact entry_eq_ok.1 hpaired
      | host | port | handshakeTimeout | requestTimeout | requireClientCert | sessionIdContext => cases hs

/-- A configuration that was read from a map has each setting from its own section. -/
theorem config_settles {source : Source} {ms : List (String × Value)} (h : config .ignored (.map source ms) = .ok c)
    (s : Setting) : s.settle ((ms.lookup s.home.name).bind s.within?) = .ok (s.get c) := by
  obtain ⟨ic, hidentity, h⟩ := bind_eq_ok h
  obtain ⟨sc, hserver, h⟩ := bind_eq_ok h
  cases h
  rw [member_eq_ok] at hidentity hserver
  cases hs : s.home with
  | server =>
      rw [Section.name]
      cases hlookup : ms.lookup "server" with
      | some v => exact server_settles (by rwa [hlookup] at hserver) ic hs
      | none =>
          rw [hlookup] at hserver
          cases hserver
          cases s <;> first | rfl | cases hs
  | identity =>
      rw [Section.name]
      cases hlookup : ms.lookup "identity" with
      | some v => exact identity_settles (by rwa [hlookup] at hidentity) sc hs
      | none =>
          rw [hlookup] at hidentity
          cases hidentity
          cases s <;> first | rfl | cases hs

theorem config_congr {source : Source} {ms ms' : List (String × Value)}
    (h : ∀ p : Section, ms.lookup p.name = ms'.lookup p.name) :
    config .ignored (.map source ms) = config .ignored (.map source ms') := by
  have hserver : ms.lookup "server" = ms'.lookup "server" := h .server
  have hidentity : ms.lookup "identity" = ms'.lookup "identity" := h .identity
  rw [config, config, member, member, member, member, hserver, hidentity]

variable {ms : List (String × Value)} {source : Source}

theorem server_of_settles {v : Value} (hform : ∀ source x, v ≠ .scalar source x)
    (h : ∀ s : Setting, s.home = .server → s.settle (s.within? v) = .ok (s.get c)) :
    server .ignored v = .ok c.server := by
  have hhost := h .host rfl
  have hport := h .port rfl
  have hhandshake := h .handshakeTimeout rfl
  have hrequest := h .requestTimeout rfl
  have hrequire := h .requireClientCert rfl
  have hcontext := h .sessionIdContext rfl
  cases v with
  | scalar source x => exact absurd rfl (hform source x)
  | map source ms =>
      refine bind_of_ok (member_eq_ok.2 hhandshake) ?_
      refine bind_of_ok (member_eq_ok.2 hhost) ?_
      refine bind_of_ok (member_eq_ok.2 hport) ?_
      refine bind_of_ok (member_eq_ok.2 hrequest) ?_
      refine bind_of_ok (member_eq_ok.2 hrequire) ?_
      exact bind_of_ok (member_eq_ok.2 hcontext) rfl
  | list source xs =>
      refine bind_of_ok (entry_eq_ok.2 hhost) ?_
      refine bind_of_ok (entry_eq_ok.2 hport) ?_
      refine bind_of_ok (entry_eq_ok.2 hhandshake) ?_
      refine bind_of_ok (entry_eq_ok.2 hrequest) ?_
      refine bind_of_ok (entry_eq_ok.2 hrequire) ?_
      exact bind_of_ok (entry_eq_ok.2 hcontext) rfl

theorem identity_of_settles {v : Value} (hform : ∀ source x, v ≠ .scalar source x)
    (h : ∀ s : Setting, s.home = .identity → s.settle (s.within? v) = .ok (s.get c)) :
    identity .ignored v = .ok c.identity := by
  have hkey := h .keyPath rfl
  have hcert := h .certPath rfl
  have hpaired := h .pairedCerts rfl
  cases v with
  | scalar source x => exact absurd rfl (hform source x)
  | map source ms =>
      refine bind_of_ok (member_eq_ok.2 hcert) ?_
      refine bind_of_ok (member_eq_ok.2 hkey) ?_
      exact bind_of_ok (member_eq_ok.2 hpaired) rfl
  | list source xs =>
      refine bind_of_ok (entry_eq_ok.2 hkey) ?_
      refine bind_of_ok (entry_eq_ok.2 hcert) ?_
      exact bind_of_ok (entry_eq_ok.2 hpaired) rfl

theorem sectioned_of_config (h : config .ignored (.map source ms) = .ok c) : Sectioned ms := by
  intro p source x hlookup
  obtain ⟨ic, hidentity, h⟩ := bind_eq_ok h
  obtain ⟨sc, hserver, -⟩ := bind_eq_ok h
  rw [member_eq_ok] at hidentity hserver
  cases p with
  | server =>
      rw [show ms.lookup "server" = _ from hlookup] at hserver
      cases hserver
  | identity =>
      rw [show ms.lookup "identity" = _ from hlookup] at hidentity
      cases hidentity

theorem section_of_settles {p : Section} (hform : Sectioned ms) (hempty : read (.map .direct []) = .ok missing)
    (hread : ∀ v : Value, (∀ source x, v ≠ .scalar source x) →
      (∀ s : Setting, s.home = p → s.settle (s.within? v) = .ok (s.get c)) → read v = .ok a)
    (h : ∀ s : Setting, s.home = p → s.settle (s.inFile? (.map source ms)) = .ok (s.get c)) :
    member ms p.name read missing = .ok a := by
  rw [member_eq_ok]
  cases hlookup : ms.lookup p.name with
  | some v =>
      refine hread v (fun source x hv => hform p source x (hlookup.trans (congrArg some hv))) fun s hs => ?_
      have hsettle := h s hs
      rwa [Setting.inFile?, Value.member?, hs, hlookup] at hsettle
  | none =>
      refine hempty.symm.trans (hread _ nofun fun s hs => ?_)
      have hsettle := h s hs
      rwa [Setting.inFile?, Value.member?, hs, hlookup] at hsettle

theorem member_identity (hform : Sectioned ms)
    (h : ∀ s : Setting, s.home = .identity → s.settle (s.inFile? (.map source ms)) = .ok (s.get c)) :
    member ms "identity" (identity .ignored) defaultIdentity = .ok c.identity :=
  section_of_settles (p := .identity) hform rfl (fun _ => identity_of_settles) h

theorem member_server (hform : Sectioned ms)
    (h : ∀ s : Setting, s.home = .server → s.settle (s.inFile? (.map source ms)) = .ok (s.get c)) :
    member ms "server" (server .ignored) defaultServer = .ok c.server :=
  section_of_settles (p := .server) hform rfl (fun _ => server_of_settles) h

theorem config_of_settles (hform : Sectioned ms)
    (h : ∀ s : Setting, s.settle (s.inFile? (.map source ms)) = .ok (s.get c)) :
    config .ignored (.map source ms) = .ok c :=
  bind_of_ok (member_identity hform fun s _ => h s) (bind_of_ok (member_server hform fun s _ => h s) rfl)

variable {s : Setting} {fault : FieldFault}

theorem member_fault (hv : ms.lookup name = some v) (hread : read v = .error fault) :
    member ms name read missing = .error { fault with path := name :: fault.path } := by
  rw [member, hv]
  simp only [hread]
  rfl

theorem member_bind_of_fault {β : Type} {t : Setting} {f : t.Kind → Except FieldFault β}
    (hv : ms.lookup s.field = some v) (hfault : s.decode v = .error fault)
    (h : t ≠ s → t.settle (ms.lookup t.field) = .ok (t.get c))
    (hnext : t ≠ s → f (t.get c) = .error { fault with path := s.field :: fault.path }) :
    member ms t.field t.decode (t.get Config.default) >>= f = .error { fault with path := s.field :: fault.path } := by
  by_cases ht : t = s
  · subst ht
    exact bind_of_error (member_fault hv hfault)
  · exact bind_of_ok (member_eq_ok.2 (h ht)) (hnext ht)

theorem server_of_fault (hs : s.home = .server) (hv : ms.lookup s.field = some v) (hfault : s.decode v = .error fault)
    (h : ∀ t : Setting, t.home = .server → t ≠ s → t.settle (ms.lookup t.field) = .ok (t.get c)) :
    server .ignored (.map source ms) = .error { fault with path := s.field :: fault.path } := by
  -- The settings are looked at in this order.
  refine member_bind_of_fault hv hfault (h .handshakeTimeout rfl) fun hhandshake => ?_
  refine member_bind_of_fault hv hfault (h .host rfl) fun hhost => ?_
  refine member_bind_of_fault hv hfault (h .port rfl) fun hport => ?_
  refine member_bind_of_fault hv hfault (h .requestTimeout rfl) fun hrequest => ?_
  refine member_bind_of_fault hv hfault (h .requireClientCert rfl) fun hrequire => ?_
  refine member_bind_of_fault hv hfault (h .sessionIdContext rfl) fun hcontext => ?_
  cases s <;> contradiction

theorem identity_of_fault (hs : s.home = .identity) (hv : ms.lookup s.field = some v)
    (hfault : s.decode v = .error fault)
    (h : ∀ t : Setting, t.home = .identity → t ≠ s → t.settle (ms.lookup t.field) = .ok (t.get c)) :
    identity .ignored (.map source ms) = .error { fault with path := s.field :: fault.path } := by
  refine member_bind_of_fault hv hfault (h .certPath rfl) fun hcert => ?_
  refine member_bind_of_fault hv hfault (h .keyPath rfl) fun hkey => ?_
  refine member_bind_of_fault hv hfault (h .pairedCerts rfl) fun hpaired => ?_
  cases s <;> contradiction

theorem config_of_fault {inner : Source} {fields : List (String × Value)} (hform : Sectioned ms)
    (hsection : ms.lookup s.home.name = some (.map inner fields)) (hv : fields.lookup s.field = some v)
    (hfault : s.decode v = .error fault)
    (h : ∀ t : Setting, t ≠ s → t.settle (t.inFile? (.map source ms)) = .ok (t.get c)) :
    config .ignored (.map source ms) = .error { fault with path := s.home.name :: s.field :: fault.path } := by
  have hfields (t : Setting) (ht : t.home = s.home) (hne : t ≠ s) :
      t.settle (fields.lookup t.field) = .ok (t.get c) := by
    have hsettle := h t hne
    rwa [Setting.inFile?, Value.member?, ht, hsection] at hsettle
  cases hs : s.home with
  | identity =>
      rw [hs] at hsection hfields
      have hmember : member ms "identity" (identity .ignored) defaultIdentity = _ :=
        member_fault hsection (identity_of_fault hs hv hfault hfields)
      exact bind_of_error hmember
  | server =>
      rw [hs] at hsection hfields
      have hmember : member ms "server" (server .ignored) defaultServer = _ :=
        member_fault hsection (server_of_fault hs hv hfault hfields)
      have hidentity : member ms "identity" (identity .ignored) defaultIdentity = .ok c.identity :=
        member_identity hform fun t ht => h t fun heq => by rw [heq, hs] at ht; cases ht
      exact bind_of_ok hidentity (bind_of_error hmember)

end Decoder
end PairedTls.Config
