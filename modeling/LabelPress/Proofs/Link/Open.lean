import LabelPress.Proofs.Link.Runs
import LabelPress.Proofs.Session.DryRun

/-!
# Open links

A link says of itself that it is open, and its line holds a socket, and the two are set at different
moments around calls that can raise any fault. A link that is closed is so before its line lets go of
the socket, and may keep it if that fails. Never the other way round: whatever the wires of a run
raise, interrupts included, a live link that is open holds a socket, and this has been connected and
not closed (`Stage.IsSound`). So an open link never finds itself without one when it is asked to
write.
-/

namespace LabelPress

/-- A socket that lives goes on to as long as it is not closed. -/
theorem Exchange.mem_live_append {a b : List Exchange} {k : SocketId} (hk : k ∈ live a)
    (hb : k ∉ closed b) : k ∈ live (a ++ b) := by
  obtain ⟨hconnected, hclosed⟩ := List.mem_filter.1 hk
  refine List.mem_filter.2 ⟨?_, ?_⟩
  · rw [connected_append]
    exact List.mem_append_left _ hconnected
  · rw [closed_append]
    simpa [hb] using hclosed

/-- Of connecting, no socket is closed but the new one, and only if there is one. -/
theorem Wire.eq_of_mem_closed_connectCalls {wire : Wire} {target : Target} {timeout : Value}
    {k j : SocketId} (h : j ∈ Exchange.closed (wire.connectCalls target timeout k)) :
    j = k ∧ wire.issues target = true := by
  rw [wire.closed_connectCalls] at h
  split at h
  next hc =>
    simp only [Bool.and_eq_true] at hc
    exact ⟨List.mem_singleton.1 h, hc.1.1⟩
  next => cases h

namespace Line

/-- Requests, each over the wire as it is then, as the moves of a run. -/
def asks (requests : List (Wire × Request)) : List Move :=
  requests.map fun r => .ask r.1 r.2

namespace Stage

open Exchange

variable {s : Stage} {wire : Wire}

/-! ## Links that are not open -/

/-- A link that has been asked to close is not open, whatever came of it. -/
theorem isOpen_step_close (s : Stage) (wire : Wire) :
    (s.step (.ask wire .close)).link.isOpen = false := by
  cases hopen : s.link.isOpen with
  | false =>
    rw [step_eq_self (carryOut_close_of_not_open wire hopen)]
    exact hopen
  | true =>
    obtain ⟨hlink, -⟩ := step_of_carryOut (carryOut_close wire s.link)
    rw [hlink]
    cases hdry : s.link.dryRun with
    | true => simp only [Link.close_of_dry (carrier wire) hopen hdry]
    | false =>
      have hclose : Link.close (carrier wire) s.link = _ := Link.close_of_live hopen hdry
      rw [hclose]

/-- Until it is asked to open, nothing happens to it. -/
theorem run_asks_of_not_open (hopen : s.link.isOpen = false) {requests : List (Wire × Request)}
    (h : ∀ r ∈ requests, r.2 ≠ .open) : s.run (asks requests) = s := by
  induction requests with
  | nil => rfl
  | cons r requests ih =>
    rw [List.forall_mem_cons] at h
    obtain ⟨wire, request⟩ := r
    have hstep : s.step (.ask wire request) = s := by
      cases request with
      | «open» => exact absurd rfl h.1
      | write bytes => exact step_eq_self (carryOut_write_of_not_open wire bytes hopen)
      | close => exact step_eq_self (carryOut_close_of_not_open wire hopen)
    calc s.run (asks ((wire, request) :: requests))
        = (s.step (.ask wire request)).run (asks requests) := rfl
      _ = s.run (asks requests) := by rw [hstep]
      _ = s := ih h.2

/-! ## Links that are open -/

/-- A request has no say in whether a link is dry: it stays dry, -/
theorem dryRun_step_of_dry (hdry : s.link.dryRun = true) (wire : Wire) (request : Request) :
    (s.step (.ask wire request)).link.dryRun = true := by
  cases request with
  | «open» =>
    have hopen : (Move.ask wire .open).carryOut s.link = _ := Link.connect_of_dry _ hdry
    rw [(step_of_carryOut hopen).1]
    exact hdry
  | write bytes =>
    cases hopen : s.link.isOpen with
    | false =>
      rw [step_eq_self (carryOut_write_of_not_open wire bytes hopen)]
      exact hdry
    | true =>
      have hwrite : (Move.ask wire (.write bytes)).carryOut s.link = _ :=
        Link.write_of_dry _ bytes hopen hdry
      rw [(step_of_carryOut hwrite).1]
      exact hdry
  | close =>
    cases hopen : s.link.isOpen with
    | false =>
      rw [step_eq_self (carryOut_close_of_not_open wire hopen)]
      exact hdry
    | true =>
      rw [(step_of_carryOut (carryOut_close wire s.link)).1]
      simp only [Link.close_of_dry (carrier wire) hopen hdry, hdry]

theorem dryRun_run_of_dry (hdry : s.link.dryRun = true) (requests : List (Wire × Request)) :
    (s.run (asks requests)).link.dryRun = true := by
  induction requests generalizing s with
  | nil => exact hdry
  | cons r requests ih => exact ih (dryRun_step_of_dry hdry r.1 r.2)

/-- or it stays live, and then it keeps nothing of what it writes. -/
theorem dryRun_and_sent_step (hlive : s.link.dryRun = false) (wire : Wire) (request : Request) :
    let t := s.step (.ask wire request)
    t.link.dryRun = false ∧ t.link.sent = s.link.sent := by
  intro t
  cases request with
  | «open» =>
    cases hline : ((carrier wire).connect s.link.timeout s.link.carrier).result with
    | ok u =>
      have hopen : (Move.ask wire .open).carryOut s.link = _ := Link.connect_of_live hlive hline
      have hlink : t.link = _ := (step_of_carryOut hopen).1
      rw [hlink]
      exact ⟨hlive, rfl⟩
    | error f =>
      obtain ⟨-, hstate, -⟩ := Link.connect_of_live_fault hlive hline
      have hlink : t.link = _ := hstate
      rw [hlink]
      exact ⟨hlive, rfl⟩
  | write bytes =>
    cases hopen : s.link.isOpen with
    | false =>
      have hstep : t = s := step_eq_self (carryOut_write_of_not_open wire bytes hopen)
      rw [hstep]
      exact ⟨hlive, rfl⟩
    | true =>
      have hwrite : (Move.ask wire (.write bytes)).carryOut s.link = _ :=
        Link.write_of_live bytes hopen hlive
      have hlink : t.link = _ := (step_of_carryOut hwrite).1
      rw [hlink]
      exact ⟨hlive, rfl⟩
  | close =>
    cases hopen : s.link.isOpen with
    | false =>
      have hstep : t = s := step_eq_self (carryOut_close_of_not_open wire hopen)
      rw [hstep]
      exact ⟨hlive, rfl⟩
    | true =>
      have hclose : Link.close (carrier wire) s.link = _ := Link.close_of_live hopen hlive
      have hlink : t.link = _ := (step_of_carryOut (carryOut_close wire s.link)).1
      rw [hlink, hclose]
      exact ⟨hlive, rfl⟩

/-- What holds of a live link at every stage of a run, whatever its wires raise: if it is open, it
holds a socket that lives. Every socket that was connected or closed is one of those that were handed
out, so the next one is new. -/
structure IsSound (s : Stage) : Prop where
  dryRun_eq : s.link.dryRun = false
  sent_eq : s.link.sent = []
  socket : s.link.isOpen = true → ∃ k ∈ live s.calls, s.link.carrier.socket = some k
  connected_lt : ∀ k ∈ connected s.calls, k < s.link.carrier.issued
  closed_lt : ∀ k ∈ closed s.calls, k < s.link.carrier.issued

theorem isSound_fresh (target : Target) (timeout : Value) :
    IsSound { link := fresh target timeout false } where
  dryRun_eq := rfl
  sent_eq := rfl
  socket h := by cases h
  connected_lt := List.forall_mem_nil _
  closed_lt := List.forall_mem_nil _

/-- A request keeps that if its calls are about sockets that were handed out, and the link, if it is
open after it, holds one that lives. -/
theorem IsSound.step_of_calls (h : s.IsSound) {request : Request} {calls : List Exchange} {n : Nat}
    (hcalls : (s.step (.ask wire request)).calls = s.calls ++ calls)
    (hissued : (s.step (.ask wire request)).link.carrier.issued = n)
    (hn : s.link.carrier.issued ≤ n) (hconnected : ∀ k ∈ connected calls, k < n)
    (hclosed : ∀ k ∈ closed calls, k < n)
    (hsocket : (s.step (.ask wire request)).link.isOpen = true →
      ∃ k ∈ live (s.calls ++ calls), (s.step (.ask wire request)).link.carrier.socket = some k) :
    (s.step (.ask wire request)).IsSound := by
  obtain ⟨hdry, hsent⟩ := dryRun_and_sent_step h.dryRun_eq wire request
  refine ⟨hdry, hsent.trans h.sent_eq, ?_, ?_, ?_⟩
  · rw [hcalls]
    exact hsocket
  · rw [hcalls, hissued, connected_append, List.forall_mem_append]
    exact ⟨fun k hk => Nat.lt_of_lt_of_le (h.connected_lt k hk) hn, hconnected⟩
  · rw [hcalls, hissued, closed_append, List.forall_mem_append]
    exact ⟨fun k hk => Nat.lt_of_lt_of_le (h.closed_lt k hk) hn, hclosed⟩

/-- A link that is asked to open and connects holds the new socket. If it does not connect, it keeps
the one that it had, and at most the new one has been closed. -/
theorem IsSound.open (h : s.IsSound) (wire : Wire) : (s.step (.ask wire .open)).IsSound := by
  have hconnected :=
    wire.connected_connectCalls s.link.carrier.target s.link.timeout s.link.carrier.issued
  cases hreaches : wire.reaches s.link.carrier.target with
  | true =>
    obtain ⟨-, -, -, hsocket, hissued, hcalls⟩ := step_open_of_reached h.dryRun_eq hreaches
    have hclosed :=
      wire.closed_connectCalls s.link.carrier.target s.link.timeout s.link.carrier.issued
    simp only [hreaches, Bool.not_true, Bool.and_false, Bool.false_and, Bool.false_eq_true, if_true,
      if_false] at hconnected hclosed
    -- The new socket was not handed out before, so it has not been closed either.
    have hnew : s.link.carrier.issued ∉ closed s.calls := fun hk =>
      Nat.lt_irrefl _ (h.closed_lt _ hk)
    refine h.step_of_calls hcalls hissued (Nat.le_succ _) ?_ ?_ fun _ => ⟨_, ?_, hsocket⟩
    · rw [hconnected, List.forall_mem_singleton]
      exact Nat.lt_succ_self _
    · rw [hclosed]
      exact List.forall_mem_nil _
    · rw [live_append_of_closed_nil hconnected hclosed hnew]
      exact List.mem_append_right _ (List.mem_singleton_self _)
  | false =>
    obtain ⟨-, hopen, hsocket, hissued, hcalls⟩ :=
      step_open_of_not_reached h.dryRun_eq hreaches
    rw [if_neg (by simp [hreaches])] at hconnected
    refine h.step_of_calls hcalls hissued (Nat.le_add_right _ _) ?_ ?_ fun hopened => ?_
    · rw [hconnected]
      exact List.forall_mem_nil _
    · intro k hk
      obtain ⟨rfl, hissues⟩ := Wire.eq_of_mem_closed_connectCalls hk
      simp [hissues]
    · rw [hopen] at hopened
      obtain ⟨k, hk, hheld⟩ := h.socket hopened
      -- The socket that it had was handed out before the one that may have been closed.
      have hlt : k < s.link.carrier.issued := h.connected_lt k (List.mem_filter.1 hk).1
      refine ⟨k, mem_live_append hk fun hmem => ?_, hsocket.trans hheld⟩
      exact Nat.ne_of_lt hlt (Wire.eq_of_mem_closed_connectCalls hmem).1

/-- Writing makes no socket and closes none, -/
theorem IsSound.write (h : s.IsSound) (wire : Wire) (bytes : Bytes) :
    (s.step (.ask wire (.write bytes))).IsSound := by
  cases hopen : s.link.isOpen with
  | false =>
    rw [step_eq_self (carryOut_write_of_not_open wire bytes hopen)]
    exact h
  | true =>
    obtain ⟨k, hk, hheld⟩ := h.socket hopen
    obtain ⟨hlink, hcalls⟩ :=
      step_of_carryOut (carryOut_write_of_socket wire bytes h.dryRun_eq hopen hheld)
    refine h.step_of_calls hcalls (congrArg (·.carrier.issued) hlink) (Nat.le_refl _)
      (List.forall_mem_nil _) (List.forall_mem_nil _) fun _ => ⟨k, ?_, ?_⟩
    · exact mem_live_append hk (List.not_mem_nil)
    · rw [hlink]
      exact hheld

/-- and a link that is closed is not open, whether or not it lets go of its socket. -/
theorem IsSound.close (h : s.IsSound) (wire : Wire) : (s.step (.ask wire .close)).IsSound := by
  cases hopen : s.link.isOpen with
  | false =>
    rw [step_eq_self (carryOut_close_of_not_open wire hopen)]
    exact h
  | true =>
    obtain ⟨k, hk, hheld⟩ := h.socket hopen
    obtain ⟨-, hshut, hissued, hcalls⟩ := step_close_of_open wire h.dryRun_eq hopen hheld
    refine h.step_of_calls hcalls hissued (Nat.le_refl _) ?_ ?_ fun hopened => ?_
    · rw [wire.connected_disconnectCalls]
      exact List.forall_mem_nil _
    · intro j hj
      rw [Wire.eq_of_mem_closed_disconnectCalls hj]
      exact h.connected_lt k (List.mem_filter.1 hk).1
    · rw [hshut] at hopened
      cases hopened

/-- **One request on**, over any wire. -/
theorem IsSound.step (h : s.IsSound) (wire : Wire) (request : Request) :
    (s.step (.ask wire request)).IsSound := by
  cases request with
  | «open» => exact h.open wire
  | write bytes => exact h.write wire bytes
  | close => exact h.close wire

/-- **What a run over any wires comes to.** -/
theorem IsSound.run (h : s.IsSound) (requests : List (Wire × Request)) :
    (s.run (asks requests)).IsSound := by
  induction requests generalizing s with
  | nil => exact h
  | cons r requests ih => exact ih (h.step r.1 r.2)

/-- **What it means for a link to be open.** Whatever a link is asked, in whatever order, and whatever
its wires raise, a live link that is open holds a socket that has been connected and not closed. So
the only faults in writing are that the link is not open, which is said exactly if it is not and
leaves everything alone, and the one that sending raises. A link that is not open is closed without a
call, so of two closings with no opening between them the second does nothing; and no live link keeps
what is written to it. -/
theorem open_link_is_connected (target : Target) (timeout : Value) (dryRun : Bool)
    (requests : List (Wire × Request)) :
    let s : Stage := { link := fresh target timeout dryRun }
    let t := s.run (asks requests)
    (dryRun = false → t.link.isOpen = true →
      ∃ k ∈ live t.calls, t.link.carrier.socket = some k) ∧
    (∀ (wire : Wire) (bytes : Bytes),
      let done := (Move.ask wire (.write bytes)).carryOut t.link
      (t.link.isOpen = false ↔
        done = ⟨.error ⟨.transport, t.link.carrier.describe ++ " is not open"⟩, t.link, []⟩) ∧
      (t.link.isOpen = true → ∀ f, done.result = .error f → wire.sendall = some f)) ∧
    (∀ wire : Wire, t.link.isOpen = false →
      (Move.ask wire .close).carryOut t.link = ⟨.ok .null, t.link, []⟩) ∧
    (∀ (wire : Wire) (later : List (Wire × Request)), (∀ r ∈ later, r.2 ≠ .open) →
      (t.step (.ask wire .close)).run (asks later) = t.step (.ask wire .close)) ∧
    (dryRun = false → t.link.sent = []) := by
  intro s t
  have hsound : dryRun = false → t.IsSound := by
    rintro rfl
    exact (isSound_fresh target timeout).run requests
  refine ⟨fun hdry => (hsound hdry).socket, fun wire bytes => ?_, fun wire hopen => ?_,
    fun wire later hlater => ?_, fun hdry => (hsound hdry).sent_eq⟩
  · intro done
    cases hopen : t.link.isOpen with
    | false =>
      have hwrite := carryOut_write_of_not_open wire bytes hopen
      exact ⟨⟨fun _ => hwrite, fun _ => rfl⟩, nofun⟩
    | true =>
      have hfault : ∀ f, done.result = .error f → wire.sendall = some f ∧ done.trace ≠ [] := by
        intro f hf
        cases dryRun with
        | true =>
          have hdry : t.link.dryRun = true := dryRun_run_of_dry rfl requests
          have hdone : done = _ := Link.write_of_dry (carrier wire) bytes hopen hdry
          rw [hdone] at hf
          cases hf
        | false =>
          -- The link holds a socket, so its line does not miss one.
          have hlive := (hsound rfl).dryRun_eq
          obtain ⟨k, -, hk⟩ := (hsound rfl).socket hopen
          have hdone : done = _ := carryOut_write_of_socket wire bytes hlive hopen hk
          rw [hdone] at hf ⊢
          refine ⟨?_, List.cons_ne_nil _ _⟩
          cases hs : wire.sendall with
          | none => simp [hs] at hf
          | some g => simpa [hs] using hf
      refine ⟨⟨nofun, fun hdone => ?_⟩, fun _ f hf => (hfault f hf).1⟩
      exact absurd (congrArg Run.trace hdone) (hfault _ (congrArg Run.result hdone)).2
  · exact carryOut_close_of_not_open wire hopen
  · exact run_asks_of_not_open (isOpen_step_close t wire) hlater

/-- A network link that is interrupted while it opens once more is open, and its socket lives. An
interrupt in hanging up leaves it closed with the socket still held, and whatever it is asked then,
short of opening, it makes no call. -/
theorem open_link_is_connected_when_interrupted :
    let interrupted : Wire := {
      connect := some ⟨.interrupt, []⟩, shutdown := some ⟨.interrupt, []⟩ }
    let target : Target := .network "10.0.0.5" ⟨9100, by decide, by decide⟩
    let requests : List (Wire × Request) := [({}, .open), (interrupted, .open)]
    let later : List (Wire × Request) := [({}, .close), (interrupted, .write [0x5E])]
    let s : Stage := { link := fresh target (.int 5) false }
    let t := s.run (asks requests)
    let u := t.step (.ask interrupted .close)
    t.link.isOpen = true ∧ (∃ k ∈ live t.calls, t.link.carrier.socket = some k) ∧
      t.link.sent = [] ∧ u.link.isOpen = false ∧ u.link.carrier.socket = some 0 ∧
      u.run (asks later) = u := by
  intro interrupted target requests later s t u
  have hlater : ∀ r ∈ later, r.2 ≠ .open := by decide
  obtain ⟨hheld, -, -, hclosed, hsent⟩ := open_link_is_connected target (.int 5) false requests
  exact ⟨by rfl, hheld rfl (by rfl), hsent rfl, by rfl, by rfl, hclosed interrupted later hlater⟩

end Stage

end Line

end LabelPress
