import PairedTls.Proofs.SessionScopes

namespace PairedTls

namespace Utf8

theorem encode_inj {cs cs' : List Char} : encode cs = encode cs' ↔ cs = cs' := by
  refine ⟨fun h => ?_, congrArg encode⟩
  have hbytes : cs.utf8Encode = cs'.utf8Encode := congrArg List.toByteArray h
  have hchars : some cs.toArray = some cs'.toArray := by
    rw [← List.utf8Decode?_utf8Encode, ← List.utf8Decode?_utf8Encode, hbytes]
  simpa using hchars

end Utf8

namespace SessionContext

def portMark (port : UInt16) : Bytes :=
  Utf8.encode (port.toNat.repr.toList ++ [':'])

def backwards (address : String) : Bytes :=
  Utf8.encode address.toList.reverse

def room (port : UInt16) : Nat :=
  maxLength - (portMark port).length

def Cut (address : String) (port : UInt16) : Prop :=
  maxLength < (portMark port ++ backwards address).length

instance (address : String) (port : UInt16) : Decidable (Cut address port) :=
  inferInstanceAs (Decidable (_ < _))

variable {a b : String} {p : UInt16}

theorem portMark_eq (port : UInt16) : portMark port = portDigits port ++ [58] := by
  rw [portMark, Utf8.encode, List.flatMap_append]
  exact congrArg (· ++ [58]) (encode_repr port)

theorem length_portMark_le (port : UInt16) : (portMark port).length ≤ 6 := by
  have hdigits := length_portDigits_le port
  rw [portMark_eq, List.length_append, List.length_singleton]
  omega

theorem bytes_eq (address : String) (port : UInt16) :
    (ofListener address port).bytes = portMark port ++ (backwards address).take (room port) := by
  rw [bytes_ofListener, room, portMark_eq, List.length_append, List.length_singleton, Nat.sub_sub, List.append_assoc]
  rfl

theorem length_bytes_le (address : String) (port : UInt16) : (ofListener address port).bytes.length ≤ maxLength :=
  List.length_take_le ..

theorem backwards_inj : backwards a = backwards b ↔ a = b := by
  rw [backwards, backwards, Utf8.encode_inj, List.reverse_inj, String.toList_inj]

theorem ofListener_eq_iff :
    ofListener a p = ofListener b p ↔ (backwards a).take (room p) = (backwards b).take (room p) := by
  have hbytes : ofListener a p = ofListener b p ↔ (ofListener a p).bytes = (ofListener b p).bytes := by
    rw [SessionContext.mk.injEq]
  rw [hbytes, bytes_eq, bytes_eq, List.append_cancel_left_eq]

theorem take_of_not_cut (h : ¬Cut a p) : (backwards a).take (room p) = backwards a := by
  have hmark := length_portMark_le p
  rw [Cut, List.length_append] at h
  exact List.take_of_length_le (by rw [room]; omega)

/-- Contexts of distinct addresses are equal only where a cut makes them so. -/
theorem cut_of_eq (hne : a ≠ b) (h : ofListener a p = ofListener b p) : Cut a p ∨ Cut b p := by
  by_contra hwhole
  rw [not_or] at hwhole
  have hbackwards := ofListener_eq_iff.1 h
  rw [take_of_not_cut hwhole.1, take_of_not_cut hwhole.2, backwards_inj] at hbackwards
  exact hne hbackwards

/-- A context is at most 32 bytes long and has the port in full. It tells the port from any other, whatever the
addresses, and of the address as much as there is room for. -/
theorem ofListener_by_port (a b : String) (p q : UInt16) :
    (ofListener a p).bytes.length ≤ 32 ∧ portMark p <+: (ofListener a p).bytes ∧
    (p ≠ q → ofListener a p ≠ ofListener b q ∧ ¬(ofListener a p).bytes <+: (ofListener b q).bytes ∧
      ¬(ofListener b q).bytes <+: (ofListener a p).bytes) ∧
    (p = q →
      (ofListener a p = ofListener b q ↔
        (backwards a).take (32 - (portMark p).length) = (backwards b).take (32 - (portMark p).length)) ∧
      (a ≠ b → ofListener a p = ofListener b q → Cut a p ∨ Cut b q)) := by
  refine ⟨length_bytes_le a p, ?_, ?_, ?_⟩
  · rw [bytes_eq]
    exact List.prefix_append _ _
  · intro hne
    obtain ⟨hab, hba⟩ := unrelated_of_ports hne a b
    exact ⟨fun heq => hab (heq ▸ List.prefix_refl _), hab, hba⟩
  · rintro rfl
    exact ⟨ofListener_eq_iff, cut_of_eq⟩

theorem ofListener_by_port_alike :
    let a := "aλbcdefghijklmnopqrstuvwxyz"
    let b := "bλbcdefghijklmnopqrstuvwxyz"
    (4798 : UInt16) ≠ 47984 ∧ ¬(ofListener a 4798).bytes <+: (ofListener b 47984).bytes ∧
      a ≠ b ∧ ofListener a 47984 = ofListener b 47984 ∧ (Cut a 47984 ∨ Cut b 47984) := by
  intro a b
  have hports : (4798 : UInt16) ≠ 47984 := by decide
  have haddresses : a ≠ b := by decide
  have hsame : ofListener a 47984 = ofListener b 47984 := by decide +kernel
  obtain ⟨-, -, hunrelated, -⟩ := ofListener_by_port a b 4798 47984
  obtain ⟨-, -, -, hcut⟩ := ofListener_by_port a b 47984 47984
  exact ⟨hports, (hunrelated hports).2.1, haddresses, hsame, (hcut rfl).2 haddresses hsame⟩

end SessionContext
end PairedTls
