import LabelPress.Proofs.Link.Open

/-!
# Rehearsed moves

Opening, writing and closing each ask for themselves whether the run is dry, and the answer may change
between two of them. So a link that was opened live may be closed dry, and keeps its socket then; it
may be opened dry and written to live. A dry move is settled without the wire all the same
(`carryOut_of_dry`), and what a link has kept is what was written to it dry and open, whatever
happened in between (`sent_run`).
-/

namespace LabelPress

namespace Line

/-- What a move in a dry run comes to. The wire has no say in it. -/
def Move.rehearsed (link : Link Line) : Move → Except Fault Value × Link Line
  | .ask _ .open => (.ok (.bool true), { link with isOpen := true })
  | .ask _ (.write bytes) =>
    if link.isOpen then (.ok (.int bytes.length), { link with sent := link.sent ++ [bytes] })
    else (.error ⟨.transport, link.carrier.describe ++ " is not open"⟩, link)
  | .ask _ .close => (.ok .null, { link with isOpen := false })
  | .setDryRun dryRun => (.ok .null, { link with dryRun })

/-- Whether a move asks the link to write. -/
def Move.asksToWrite : Move → Bool
  | .ask _ (.write _) => true
  | _ => false

/-- The only dry move that ends with a fault is to write to a link that is not open. -/
theorem rehearsed_eq_error_iff {link : Link Line} {m : Move} :
    (∃ f, (m.rehearsed link).1 = .error f) ↔ m.asksToWrite = true ∧ link.isOpen = false := by
  cases m with
  | setDryRun dryRun => simp [Move.rehearsed, Move.asksToWrite]
  | ask wire request =>
    cases request with
    | «open» => simp [Move.rehearsed, Move.asksToWrite]
    | write bytes => cases hopen : link.isOpen <;> simp [Move.rehearsed, Move.asksToWrite, hopen]
    | close => simp [Move.rehearsed, Move.asksToWrite]

namespace Stage

/-- **A dry move is rehearsed**: it leaves nothing in the trace, neither calls nor records. -/
theorem carryOut_of_dry {link : Link Line} (hdry : link.dryRun = true) (m : Move) :
    m.carryOut link = ⟨(m.rehearsed link).1, (m.rehearsed link).2, []⟩ := by
  cases m with
  | setDryRun dryRun => rfl
  | ask wire request =>
    cases request with
    | «open» => exact Link.connect_of_dry (carrier wire) hdry
    | write bytes =>
      cases hopen : link.isOpen with
      | false => simpa [Move.rehearsed, hopen] using carryOut_write_of_not_open wire bytes hopen
      | true =>
        have hwrite : (Move.ask wire (.write bytes)).carryOut link = _ :=
          Link.write_of_dry (carrier wire) bytes hopen hdry
        simpa [Move.rehearsed, hopen] using hwrite
    | close =>
      cases hopen : link.isOpen with
      | false =>
        rw [carryOut_close_of_not_open wire hopen]
        simp only [Move.rehearsed, ← hopen]
      | true =>
        rw [carryOut_close, Link.close_of_dry (carrier wire) hopen hdry]
        rfl

/-- What a link keeps of a move: the bytes that are written to it while it is dry and open. -/
def keptBy (s : Stage) : Move → List Bytes
  | .ask _ (.write bytes) => if s.link.dryRun && s.link.isOpen then [bytes] else []
  | _ => []

/-- Bytes that are kept have been written to a link that is dry and open, and nothing else is kept of
the move. -/
theorem eq_write_of_mem_keptBy {s : Stage} {m : Move} {bytes : Bytes} (h : bytes ∈ s.keptBy m) :
    ∃ wire, m = .ask wire (.write bytes) ∧ s.link.dryRun = true ∧ s.link.isOpen = true ∧
      s.keptBy m = [bytes] := by
  unfold keptBy at h ⊢
  split at h
  next wire bytes' =>
    split at h
    next hc =>
      obtain rfl := List.mem_singleton.1 h
      rw [Bool.and_eq_true] at hc
      exact ⟨wire, rfl, hc.1, hc.2, by simp [hc]⟩
    next => cases h
  next => cases h

/-- What a link keeps of some moves, in order. -/
def keptIn (s : Stage) : List Move → List Bytes
  | [] => []
  | m :: moves => s.keptBy m ++ (s.step m).keptIn moves

/-- **What a link has kept after a move** is what it had, and what it keeps of the move. -/
theorem sent_step (s : Stage) (m : Move) : (s.step m).link.sent = s.link.sent ++ s.keptBy m := by
  cases hdry : s.link.dryRun with
  | true =>
    rw [(step_of_carryOut (carryOut_of_dry hdry m)).1]
    cases m with
    | setDryRun dryRun => simp [Move.rehearsed, keptBy]
    | ask wire request =>
      cases request with
      | «open» => simp [Move.rehearsed, keptBy]
      | write bytes => cases hopen : s.link.isOpen <;> simp [Move.rehearsed, keptBy, hdry, hopen]
      | close => simp [Move.rehearsed, keptBy]
  | false =>
    cases m with
    | setDryRun dryRun => exact (List.append_nil _).symm
    | ask wire request =>
      have hkept : s.keptBy (.ask wire request) = [] := by cases request <;> simp [keptBy, hdry]
      rw [hkept, List.append_nil]
      exact (dryRun_and_sent_step hdry wire request).2

/-- **What a link has kept at the end of a run**, however live and dry moves take turns in it. -/
theorem sent_run (s : Stage) (moves : List Move) :
    (s.run moves).link.sent = s.link.sent ++ s.keptIn moves := by
  induction moves generalizing s with
  | nil => exact (List.append_nil _).symm
  | cons m moves ih =>
    calc (s.run (m :: moves)).link.sent
        = (s.step m).link.sent ++ (s.step m).keptIn moves := ih (s.step m)
      _ = s.link.sent ++ (s.keptBy m ++ (s.step m).keptIn moves) := by
        rw [sent_step, List.append_assoc]

/-- **Dry moves are rehearsed, and what is written in them is kept.** Let a link be asked to open,
write and close and be set dry or live in any order, over wires that raise whatever they may. At
every stage of that it has kept the bytes of those writes, in order, that it was asked for while it was
dry and open. And whatever move follows there: if the link is dry, it makes no call and leaves no
record, and ends with a fault exactly if it is a write and the link is not open; if it is a write that
is kept, it tells its length; and if not, what has been kept stays as it is. -/
theorem dry_moves_are_rehearsed (target : Target) (timeout : Value) (dryRun : Bool)
    (moves : List Move) :
    let s : Stage := { link := fresh target timeout dryRun }
    let t := s.run moves
    t.link.sent = s.keptIn moves ∧
    ∀ m : Move,
      let done := m.carryOut t.link
      (t.link.dryRun = true → done.trace = [] ∧
        ((∃ f, done.result = .error f) ↔ m.asksToWrite = true ∧ t.link.isOpen = false)) ∧
      (∀ bytes ∈ t.keptBy m,
        done.result = .ok (.int bytes.length) ∧ done.state.sent = t.link.sent ++ [bytes]) ∧
      (t.keptBy m = [] → done.state.sent = t.link.sent) := by
  intro s t
  refine ⟨sent_run s moves, fun m => ?_⟩
  intro done
  have hsent : done.state.sent = t.link.sent ++ t.keptBy m := sent_step t m
  refine ⟨fun hdry => ?_, fun bytes hbytes => ?_, fun hnone => ?_⟩
  · have hdone : done = _ := carryOut_of_dry hdry m
    rw [hdone]
    exact ⟨rfl, rehearsed_eq_error_iff⟩
  · obtain ⟨wire, rfl, hdry, hopen, hkept⟩ := eq_write_of_mem_keptBy hbytes
    have hdone : done = _ := Link.write_of_dry (carrier wire) bytes hopen hdry
    rw [hkept] at hsent
    exact ⟨by rw [hdone], hsent⟩
  · rw [hsent, hnone, List.append_nil]

/-- A link that is opened live, written to dry, written to live and dry once more over a wire that is
down has kept both dry writes. One that is then closed dry holds its socket still, makes no call
for it, and says that it is not open. -/
theorem rehearsed_between_live_moves :
    let down : Wire := { sendall := some ⟨.brokenPipe, []⟩, close := some ⟨.interrupt, []⟩ }
    let moves : List Move := [.ask {} .open, .setDryRun true, .ask down (.write [0x5E]),
      .setDryRun false, .ask down (.write [0x58]), .setDryRun true, .ask down (.write [])]
    let s : Stage := { link := fresh (.radio "AC:3F:A4:12:34:56" (.int 1)) (.int 5) false }
    let t := s.run moves
    let closed := t.step (.ask down .close)
    t.link.sent = [[0x5E], []] ∧ t.link.dryRun = true ∧ t.link.isOpen = true ∧
      ((Move.ask down .close).carryOut t.link).trace = [] ∧ closed.link.sent = [[0x5E], []] ∧
      closed.link.carrier.socket = some 0 ∧ closed.link.isOpen = false ∧
      ∃ f, ((Move.ask down (.write [0x41])).carryOut closed.link).result = .error f := by
  intro down moves s t closed
  have hdry : t.link.dryRun = true := by rfl
  obtain ⟨hkept, hmove⟩ :=
    dry_moves_are_rehearsed (.radio "AC:3F:A4:12:34:56" (.int 1)) (.int 5) false moves
  have hsent : t.link.sent = [[0x5E], []] := hkept.trans (by rfl)
  obtain ⟨hclose, -, hstays⟩ := hmove (.ask down .close)
  -- The closing is one more move of the run, so what follows it is told by the run that it ends.
  obtain ⟨-, hlater⟩ := dry_moves_are_rehearsed (.radio "AC:3F:A4:12:34:56" (.int 1)) (.int 5) false
    (moves ++ [.ask down .close])
  obtain ⟨hwrite, -, -⟩ := hlater (.ask down (.write [0x41]))
  exact ⟨hsent, hdry, by rfl, (hclose hdry).1, (hstays rfl).trans hsent, by rfl, by rfl,
    (hwrite (by rfl)).2.2 ⟨rfl, by rfl⟩⟩

end Stage

end Line

end LabelPress
