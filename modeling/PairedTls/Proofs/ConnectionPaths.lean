import Mathlib.Data.List.Nodup
import PairedTls.Tls.Connection

namespace PairedTls

namespace ConnectionState

variable {s t : ConnectionState} {way : List ConnectionState}

/-- The states that are entered on the way to a state, itself included. -/
inductive Way : ConnectionState → List ConnectionState → Prop
  | accepted : Way .accepted []
  | handshaking : Way .handshaking [.handshaking]
  | established : Way .established [.handshaking, .established]
  | handshakeFailed : Way .handshakeFailed [.handshaking, .handshakeFailed]
  | reading : Way .reading [.handshaking, .established, .reading]
  | closed {s : ConnectionState} {way : List ConnectionState} (h : Way s way) (hopen : s ≠ .closed) :
      Way .closed (way ++ [.closed])

theorem not_canAdvance_closed (t : ConnectionState) : canAdvance .closed t = false := by
  cases t <;> rfl

theorem Way.step (h : Way s way) (hstep : s.canAdvance t = true) : Way t (way ++ [t]) := by
  have hopen : s ≠ .closed := by
    rintro rfl
    rw [not_canAdvance_closed] at hstep
    cases hstep
  cases h with
  | accepted =>
      cases t with
      | handshaking => exact .handshaking
      | closed => exact .closed .accepted hopen
      | accepted | established | handshakeFailed | reading => cases hstep
  | handshaking =>
      cases t with
      | established => exact .established
      | handshakeFailed => exact .handshakeFailed
      | closed => exact .closed .handshaking hopen
      | accepted | handshaking | reading => cases hstep
  | established =>
      cases t with
      | reading => exact .reading
      | closed => exact .closed .established hopen
      | accepted | handshaking | established | handshakeFailed => cases hstep
  | handshakeFailed =>
      cases t with
      | closed => exact .closed .handshakeFailed hopen
      | accepted | handshaking | established | handshakeFailed | reading => cases hstep
  | reading =>
      cases t with
      | closed => exact .closed .reading hopen
      | accepted | handshaking | established | handshakeFailed | reading => cases hstep
  | closed _ _ => exact absurd rfl hopen

structure Sound (way : List ConnectionState) : Prop where
  short : way.length ≤ 4
  distinct : (.accepted :: way).Nodup
  reading : .reading ∈ way → [.handshaking, .established, .reading] <+: way
  failed : .handshakeFailed ∈ way → .established ∉ way ∧ .reading ∉ way

theorem Way.sound (h : Way s way) : Sound way := by
  cases h with
  | accepted | handshaking | established | handshakeFailed | reading =>
      exact ⟨by decide, by decide, by decide, by decide⟩
  | closed h hopen =>
      cases h with
      | accepted | handshaking | established | handshakeFailed | reading =>
          exact ⟨by decide, by decide, by decide, by decide⟩
      | closed _ _ => exact absurd rfl hopen

theorem Way.closed_of_mem (h : Way s way) (hmem : .closed ∈ way) : s = .closed := by
  cases h with
  | closed _ _ => rfl
  | accepted | handshaking | established | handshakeFailed | reading => revert hmem; decide

theorem Way.getLast (h : Way s way) : way.getLast?.getD .accepted = s := by
  cases h with
  | closed _ _ => rw [List.getLast?_concat, Option.getD_some]
  | accepted | handshaking | established | handshakeFailed | reading => rfl

end ConnectionState

namespace Connection
open ConnectionState

variable {c c' : Connection} {next : ConnectionState} {info : ConnectionInfo}

theorem advance_ok : c.advance next = .ok c' ↔ c.state.canAdvance next = true ∧ c' = { c with state := next } := by
  rw [advance]
  split_ifs with h
  · exact ⟨fun hok => ⟨h, (Except.ok.inj hok).symm⟩, fun hok => congrArg Except.ok hok.2.symm⟩
  · exact iff_of_false nofun fun hok => h hok.1

theorem advance_error {e : IllegalTransition} :
    c.advance next = .error e ↔ c.state.canAdvance next = false ∧ e = ⟨c.info.id, c.state, next⟩ := by
  rw [advance, ← Bool.not_eq_true]
  split_ifs with h
  · exact iff_of_false nofun fun herror => herror.1 h
  · exact ⟨fun herror => ⟨h, (Except.error.inj herror).symm⟩, fun herror => congrArg Except.error herror.2.symm⟩

/-- Asks for one state after the other, legal or not: the states that were granted, and the connection in the end. -/
def follow (c : Connection) : List ConnectionState → List ConnectionState × Connection
  | [] => ([], c)
  | next :: rest =>
    match c.advance next with
    | .ok c' =>
      let (entered, last) := c'.follow rest
      (next :: entered, last)
    | .error _ => c.follow rest

theorem follow_append (c : Connection) (asked more : List ConnectionState) :
    c.follow (asked ++ more) =
      ((c.follow asked).1 ++ ((c.follow asked).2.follow more).1, ((c.follow asked).2.follow more).2) := by
  induction asked generalizing c with
  | nil => rfl
  | cons next rest ih =>
      simp only [List.cons_append, follow]
      cases c.advance next with
      | ok c' => simp only [ih c', List.cons_append]
      | error _ => exact ih c

theorem follow_closed (h : c.state = .closed) (asked : List ConnectionState) : c.follow asked = ([], c) := by
  induction asked with
  | nil => rfl
  | cons next rest ih =>
      have hrefused : c.advance next = .error ⟨c.info.id, c.state, next⟩ :=
        advance_error.2 ⟨by rw [h, not_canAdvance_closed], rfl⟩
      rw [follow, hrefused]
      exact ih

theorem way_follow {way : List ConnectionState} (h : Way c.state way) (asked : List ConnectionState) :
    Way (c.follow asked).2.state (way ++ (c.follow asked).1) ∧ (c.follow asked).2.info = c.info := by
  induction asked generalizing c way with
  | nil =>
      rw [follow, List.append_nil]
      exact ⟨h, rfl⟩
  | cons next rest ih =>
      rw [follow]
      cases hadvance : c.advance next with
      | ok c' =>
          obtain ⟨hstep, rfl⟩ := advance_ok.1 hadvance
          -- What was granted so far is the way to the new state, with that state at its end.
          have hrest := ih (c := { c with state := next }) (h.step hstep)
          simp only
          rwa [List.append_assoc, List.singleton_append] at hrest
      | error e => exact ih h

/-- Whatever an accepted connection is asked for, and in whichever order: a request that is granted changes the state
and nothing else, one that is refused changes nothing. At most four are granted and no state is entered twice; reading
comes right after a handshake that succeeded, and never if it failed; and after closing, all requests are refused. -/
theorem follow_accepted (info : ConnectionInfo) (asked : List ConnectionState) :
    let entered := ((accepted info).follow asked).1
    let c := ((accepted info).follow asked).2
    c = ⟨info, entered.getLast?.getD .accepted⟩ ∧
      (∀ next c', c.advance next = .ok c' →
        c' = { c with state := next } ∧ (accepted info).follow (asked ++ [next]) = (entered ++ [next], c')) ∧
      (∀ next e, c.advance next = .error e →
        e = ⟨info.id, c.state, next⟩ ∧ (accepted info).follow (asked ++ [next]) = (entered, c)) ∧
      entered.length ≤ 4 ∧ (.accepted :: entered).Nodup ∧
      (.reading ∈ entered → [.handshaking, .established, .reading] <+: entered) ∧
      (.handshakeFailed ∈ entered → .established ∉ entered ∧ .reading ∉ entered) ∧
      (.closed ∈ entered →
        (∀ next, c.advance next = .error ⟨info.id, .closed, next⟩) ∧
          ∀ more, (accepted info).follow (asked ++ more) = (entered, c)) := by
  intro entered c
  obtain ⟨hway, hinfo⟩ : Way c.state ([] ++ entered) ∧ c.info = info := way_follow (c := accepted info) .accepted asked
  rw [List.nil_append] at hway
  have hsound := hway.sound
  have hmore : ∀ more, (accepted info).follow (asked ++ more) = (entered ++ (c.follow more).1, (c.follow more).2) :=
    follow_append (accepted info) asked
  refine ⟨?_, ?_, ?_, hsound.short, hsound.distinct, hsound.reading, hsound.failed, ?_⟩
  · rw [hway.getLast, ← hinfo]
  · intro next c' hadvance
    refine ⟨(advance_ok.1 hadvance).2, ?_⟩
    rw [hmore, follow, hadvance]
    rfl
  · intro next e hadvance
    rw [← hinfo]
    refine ⟨(advance_error.1 hadvance).2, ?_⟩
    rw [hinfo, hmore, follow, hadvance]
    simp [follow]
  · intro hclosed
    have hstate := hway.closed_of_mem hclosed
    constructor
    · intro next
      rw [advance_error, hstate, hinfo]
      exact ⟨not_canAdvance_closed next, rfl⟩
    · intro more
      rw [hmore, follow_closed hstate, List.append_nil]

example (info : ConnectionInfo) :
    ((accepted info).follow
      [.reading, .handshaking, .accepted, .established, .handshakeFailed, .reading, .closed, .handshaking]).1 =
        [.handshaking, .established, .reading, .closed] :=
  rfl

end Connection
end PairedTls
