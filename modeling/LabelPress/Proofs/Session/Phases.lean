import LabelPress.Link.Rehearsal
import LabelPress.Proofs.Session.Records

/-!
# The phases of a send

A session logs each change of its phase. `Step` has the changes that there are, one of them only
while a fault escapes, and `Course` strings them together, each starting in the phase where the one
before it ended. The turn after writing keeps to a course (`course_writeTurn`), the turn after
closing takes it up where that left it (`course_closeTurn`), and so the whole send keeps to one,
wherever it breaks off (`course_of_send`).
-/

namespace LabelPress

/-- Every phase. -/
def Phase.all : List Phase := [.idle, .opening, .open, .writing, .closed, .failed]

theorem Phase.mem_all (p : Phase) : p ∈ Phase.all := by cases p <;> decide

/-- Whether a phase is one that a send does not leave again. -/
def Phase.IsLast (p : Phase) : Prop := p = .failed ∨ p = .closed

namespace Session

variable {κ σ : Type}

/-! ## Reading the log -/

/-- The change of phase that a record tells, if it tells one. -/
def change? (r : Log.Record) : Option (Phase × Phase) :=
  if r.level = .debug ∧ r.source = source then
    (Phase.all.flatMap fun p => Phase.all.map (p, ·)).find? fun change =>
      r.message = transitionMessage change.1 change.2
  else none

/-- The changes of phase that a log tells, in order. -/
def changes (records : List Log.Record) : List (Phase × Phase) := records.filterMap change?

/-- **A change is read as it was told.** -/
@[simp] theorem change?_transition (p q : Phase) : change? (transition p q) = some (p, q) := by
  have hall : ∀ p ∈ Phase.all, ∀ q ∈ Phase.all, change? (transition p q) = some (p, q) := by
    decide +kernel
  exact hall p p.mem_all q q.mem_all

@[simp] theorem changes_nil : changes [] = [] := rfl

@[simp] theorem changes_append (records more : List Log.Record) :
    changes (records ++ more) = changes records ++ changes more := List.filterMap_append

@[simp] theorem changes_transition_cons (p q : Phase) (records : List Log.Record) :
    changes (transition p q :: records) = (p, q) :: changes records :=
  List.filterMap_cons_some (change?_transition p q)

/-- A record that is meant for more than debugging tells no change. -/
theorem change?_of_level {r : Log.Record} (h : r.level ≠ .debug) : change? r = none :=
  if_neg fun hr => h hr.1

theorem changes_cons_of_level {r : Log.Record} (h : r.level ≠ .debug) (records : List Log.Record) :
    changes (r :: records) = changes records := List.filterMap_cons_none (change?_of_level h)

/-- Nor does one whose message begins with another letter than theirs. -/
theorem changes_cons_of_head {r : Log.Record} (h : r.message.head? ≠ some (.scalar 's'))
    (records : List Log.Record) : changes (r :: records) = changes records := by
  refine List.filterMap_cons_none ?_
  unfold change?
  split
  · refine List.find?_eq_none.2 fun change _ hchange => h ?_
    rw [of_decide_eq_true hchange]
    rfl
  · rfl

/-- The report of a delivery tells no change. -/
@[simp] theorem changes_reportRecords (endpoint : Endpoint) (r : Except Fault Delivery) :
    changes (reportRecords endpoint r) = [] := by
  cases r with
  | error f => rfl
  | ok d =>
    simp only [reportRecords]
    cases reportText endpoint d with
    | error f => rfl
    | ok text =>
      refine changes_cons_of_level ?_ []
      cases hok : d.ok <;> simp [outcomeRecord, hok]

/-- The fault of an opening is logged without a change. -/
@[simp] theorem changes_openTurn (link : Text) (r : Except Fault Value) :
    changes (openTurn link r).records = [] := by
  cases r with
  | ok opened => rfl
  | error f =>
    cases hf : f.isInterrupt with
    | true => simp [openTurn, hf]
    | false =>
      simp only [openTurn, hf, Bool.false_eq_true, if_false]
      exact changes_cons_of_head (by simp [Text.ofString]) []

/-- A session comes to its end with one change, unless it has failed. -/
@[simp] theorem changes_settleRecords (link : Text) (phase : Phase) :
    changes (settleRecords link phase) = if phase = .failed then [] else [(phase, .closed)] := by
  have hclosed : ∀ records, changes (records ++ [{
      level := .debug, source, message := "connection to " ++ link ++ " closed" }]) =
        changes records := by
    intro records
    rw [changes_append, changes_cons_of_head (by simp [Text.ofString]) [], changes_nil,
      List.append_nil]
  rw [settleRecords, hclosed]
  by_cases h : phase = .failed
  · rw [if_pos h, if_pos h, changes_nil]
  · rw [if_neg h, if_neg h, changes_transition_cons, changes_nil]

/-! ## Courses -/

/-- The changes of phase that there are in a send, the last of them only while a fault escapes. -/
inductive Step (escaping : Prop) : Phase → Phase → Prop
  | begin : Step escaping .idle .opening
  | opened : Step escaping .opening .open
  | refused : Step escaping .opening .failed
  | writing : Step escaping .open .writing
  | written : Step escaping .writing .open
  | unwritten : Step escaping .writing .failed
  | closed : Step escaping .open .closed
  | abandoned : escaping → Step escaping .writing .closed

/-- A course of steps from one phase to another, by the changes that it takes. -/
inductive Course (escaping : Prop) : Phase → List (Phase × Phase) → Phase → Prop
  | nil (p : Phase) : Course escaping p [] p
  | cons {p q r : Phase} {rest : List (Phase × Phase)} :
      Step escaping p q → Course escaping q rest r → Course escaping p ((p, q) :: rest) r

section Course

variable {escaping escaping' : Prop} {p q r : Phase} {told rest : List (Phase × Phase)}

theorem Step.mono (h : Step escaping p q) (hesc : escaping → escaping') : Step escaping' p q := by
  cases h with
  | abandoned he => exact .abandoned (hesc he)
  | _ => constructor

theorem Course.mono (h : Course escaping p told q) (hesc : escaping → escaping') :
    Course escaping' p told q := by
  induction h with
  | nil => exact .nil _
  | cons hstep _ ih => exact .cons (hstep.mono hesc) ih

/-- No step leaves a last phase. -/
theorem Step.not_isLast (h : Step escaping p q) : ¬ p.IsLast := by
  cases h <;> simp [Phase.IsLast]

theorem Course.append (h : Course escaping p told q) (hrest : Course escaping q rest r) :
    Course escaping p (told ++ rest) r := by
  induction h with
  | nil => exact hrest
  | cons hstep _ ih => exact .cons hstep (ih hrest)

/-- So nothing follows the step to a last phase. -/
theorem Course.nothing_after_last {change : Phase × Phase}
    (h : Course escaping p (told ++ change :: rest) r) (hlast : change.2.IsLast) : rest = [] := by
  induction told generalizing p with
  | nil =>
    cases h with
    | cons _ hrest =>
      cases hrest with
      | nil => rfl
      | cons hstep _ => exact absurd hlast hstep.not_isLast
  | cons _ told ih =>
    cases h with
    | cons _ hrest => exact ih hrest

/-- A course ends where its last step leads to. -/
theorem Course.getLast?_eq (h : Course escaping p told r) (hne : told ≠ []) :
    told.getLast?.map (·.2) = some r := by
  induction h with
  | nil => exact absurd rfl hne
  | @cons p q r rest _ hrest ih =>
    cases rest with
    | nil =>
      cases hrest
      rfl
    | cons change rest =>
      rw [List.getLast?_cons_cons]
      exact ih (by simp)

end Course

/-! ## The turns of a session keep to a course -/

section turns

variable {escaping : Prop}

/-- **The turn after writing** stays in its phase and lets a fault escape, or it takes one step. -/
theorem writeTurn_cases (link : Text) (total : Nat) (r : Except Fault Value) :
    let turn := writeTurn link total r
    (turn.phase = .writing ∧ changes turn.records = [] ∧ ∃ f, turn.result = .error f) ∨
      (turn.phase = .open ∧ changes turn.records = [(.writing, .open)]) ∨
      (turn.phase = .failed ∧ changes turn.records = [(.writing, .failed)]) := by
  intro turn
  cases r with
  | error f =>
    cases hf : f.isInterrupt with
    | true => exact .inl (by simp [turn, writeTurn, hf])
    | false => exact .inr (.inr (by simp [turn, writeTurn, hf, changes_cons_of_level]))
  | ok taken =>
    cases hp : isProgress taken with
    | error f => exact .inl (by simp [turn, writeTurn, hp])
    | ok progress =>
      cases progress with
      | true => exact .inr (.inl (by simp [turn, writeTurn, hp]))
      | false =>
        cases ht : takenText total taken with
        | error f => exact .inl (by simp [turn, writeTurn, hp, ht])
        | ok count => exact .inr (.inr (by simp [turn, writeTurn, hp, ht]))

theorem course_writeTurn (link : Text) (total : Nat) (r : Except Fault Value) :
    let turn := writeTurn link total r
    Course escaping .writing (changes turn.records) turn.phase := by
  intro turn
  rcases writeTurn_cases link total r with ⟨hphase, htold, -⟩ | ⟨hphase, htold⟩ | ⟨hphase, htold⟩
  · rw [htold, hphase]
    exact .nil _
  · rw [htold, hphase]
    exact .cons .written (.nil _)
  · rw [htold, hphase]
    exact .cons .unwritten (.nil _)

/-- It leaves the session failed, or in a phase that closing may follow; if that is still the phase
of writing, a fault escapes. -/
theorem failed_or_step_writeTurn (link : Text) (total : Nat) (r : Except Fault Value) :
    let turn := writeTurn link total r
    turn.phase = .failed ∨ Step (∃ f, turn.result = .error f) turn.phase .closed := by
  intro turn
  rcases writeTurn_cases link total r with ⟨hphase, -, hf⟩ | ⟨hphase, -⟩ | ⟨hphase, -⟩
  · exact .inr (hphase ▸ .abandoned hf)
  · exact .inr (hphase ▸ .closed)
  · exact .inl hphase

/-- Coming to its end, a session that has not failed is closed. -/
theorem course_settle (link : Text) {phase : Phase}
    (h : phase = .failed ∨ Step escaping phase .closed) :
    Course escaping phase (changes (settleRecords link phase)) (settle phase) := by
  rw [changes_settleRecords]
  rcases h with rfl | h
  · exact .nil _
  · have hne : phase ≠ .failed := fun heq => h.not_isLast (.inl heq)
    have hsettle : settle phase = .closed := by
      cases phase with
      | failed => exact absurd rfl hne
      | _ => rfl
    rw [if_neg hne, hsettle]
    exact .cons h (.nil _)

/-- The turn after closing brings the session to its end, unless an interrupt escapes. -/
theorem course_closeTurn (link : Text) {phase : Phase} (r : Except Fault Unit)
    (h : phase = .failed ∨ Step escaping phase .closed) :
    let turn := closeTurn link phase r
    Course escaping phase (changes turn.records) turn.phase := by
  intro turn
  cases r with
  | ok _ => exact course_settle link h
  | error f =>
    cases hf : f.isInterrupt with
    | true => simpa [turn, closeTurn, hf] using Course.nil _
    | false => simpa [turn, closeTurn, hf, changes_cons_of_level] using course_settle link h

/-- **Writing and closing keep to a course.** A fault of the writing still escapes after the
closing, or another one in its place. -/
theorem course_turns (link link' : Text) (total : Nat) (r : Except Fault Value)
    (c : Except Fault Unit) :
    let turn := writeTurn link total r
    let last := closeTurn link' turn.phase c
    Course (∃ f, (last.result.bind fun _ => turn.result) = .error f) .open
      ((.open, .writing) :: (changes turn.records ++ changes last.records)) last.phase := by
  intro turn last
  have hescaping : (∃ f, turn.result = .error f) →
      ∃ f, (last.result.bind fun _ => turn.result) = .error f := by
    rintro ⟨f, hf⟩
    rw [hf]
    cases last.result with
    | error g => exact ⟨g, rfl⟩
    | ok _ => exact ⟨f, rfl⟩
  have hend := (failed_or_step_writeTurn link total r).imp_right fun h => h.mono hescaping
  exact .cons .writing ((course_writeTurn link total r).append (course_closeTurn link' c hend))

end turns

/-! ## The course of a send -/

section send

variable (factory : Factory κ σ) (endpoint : Endpoint) {payload : Payload} {bytes : Bytes}
variable (s : Session)

/-- **After it has begun, a send keeps to a course**, up to the phase that it leaves. -/
theorem course_after_begin (hb : payload.encode = .ok bytes) :
    let run := send factory endpoint payload s
    ∃ rest, changes (records factory endpoint payload s) = (.idle, .opening) :: rest ∧
      Course (∃ f, run.result = .error f) .opening rest run.state.phase := by
  intro run
  have hrefused : ∀ escaping, Course escaping .opening [(.opening, .failed)] .failed :=
    fun _ => .cons .refused (.nil _)
  cases h : (built factory endpoint s).result with
  | error f =>
    by_cases hf : f.kind = .address
    · rw [records_of_refusal hb h hf, changes_transition_cons]
      refine ⟨_, rfl, ?_⟩
      simpa [run, send_of_refusal hb h hf] using hrefused _
    · rw [records_of_fault hb h hf, changes_transition_cons]
      refine ⟨_, rfl, ?_⟩
      simpa [run, send_of_fault hb h hf] using Course.nil _
  | ok link =>
    rcases opening_cases (factory.transport.open link).result with ho | ⟨ho, hf⟩ | ⟨f, ho, hf⟩
    · rw [records_of_open hb h ho, changes_transition_cons]
      refine ⟨_, rfl, ?_⟩
      simp only [run, send_of_link hb h, deliver_of_open bytes ho, writeAndClose_eq,
        changes_transition_cons, changes_append, changes_reportRecords, List.append_nil]
      -- What escapes from the writing and closing is not reported.
      have hreported : ∀ r : Except Fault Delivery, (∃ f, r = .error f) →
          ∃ f, reported endpoint r = .error f := by
        rintro _ ⟨f, rfl⟩
        exact ⟨f, rfl⟩
      exact .cons .opened ((course_turns ..).mono (hreported _))
    · rw [records_of_closed hb h ho hf, changes_transition_cons]
      refine ⟨_, rfl, ?_⟩
      simpa [run, send_of_link hb h, deliver_of_closed bytes ho hf] using hrefused _
    · rw [records_of_interrupt hb h ho hf, changes_transition_cons]
      refine ⟨_, rfl, ?_⟩
      simpa [run, send_of_link hb h, deliver_of_interrupt bytes ho hf] using Course.nil _

/-- **The phases of a send.** Whatever the factory and the link give or raise, and whatever the
session sent before, the changes of phase that it logs begin with the one from idle to opening, each
starts in the phase that the one before it led to, and they are among the steps, of which the one
from writing to closed is there only where the send ends with a fault. Nothing follows the change to
a last phase, and the last of all leads to the phase that the session is left in. This can be read
off the whole log, unless the link logs what reads like a change of phase. -/
theorem course_of_send (hb : payload.encode = .ok bytes) :
    let run := send factory endpoint payload s
    let told := changes (records factory endpoint payload s)
    Course (∃ f, run.result = .error f) .idle told run.state.phase ∧
      told.head? = some (.idle, .opening) ∧
      told.getLast?.map (·.2) = some run.state.phase ∧
      (∀ before change after, told = before ++ change :: after → change.2.IsLast → after = []) ∧
      ((∀ r ∈ linkRecords factory endpoint payload s, change? r = none) →
        changes (Event.logs run.trace) = told) := by
  intro run told
  obtain ⟨rest, htold, hrest⟩ := course_after_begin factory endpoint s hb
  have htold' : told = (.idle, .opening) :: rest := htold
  have hcourse : Course (∃ f, run.result = .error f) .idle told run.state.phase :=
    htold' ▸ .cons .begin hrest
  refine ⟨hcourse, ?_, hcourse.getLast?_eq ?_, ?_, filterMap_logs_send factory endpoint payload s⟩
  · rw [htold', List.head?_cons]
  · rw [htold']
    exact List.cons_ne_nil _ _
  · intro before change after heq hlast
    rw [heq] at hcourse
    exact hcourse.nothing_after_last hlast

end send

/-- A send that is interrupted in writing goes from there to closed, although the link cannot be
closed either, and whatever phase the session was in. -/
theorem course_of_interrupted_send :
    let script : Script := {
      writeFault := some ⟨.interrupt, []⟩, closeFault := some ⟨.connectionReset, "reset"⟩ }
    let endpoint : Endpoint := ⟨.kind .network, .text "10.0.0.5", .null⟩
    let s : Session := { timeout := .int 5, dryRun := false, phase := .writing }
    let run := send script.factory endpoint (.text "^XA") s
    let told := changes (Event.logs run.trace)
    (Payload.text "^XA").encode = .ok [0x5E, 0x58, 0x41] ∧
      (∀ r ∈ linkRecords script.factory endpoint (.text "^XA") s, change? r = none) ∧
      told = [(.idle, .opening), (.opening, .open), (.open, .writing), (.writing, .closed)] ∧
      Course (∃ f, run.result = .error f) .idle told run.state.phase ∧
      told.getLast?.map (·.2) = some run.state.phase := by
  intro script endpoint s run told
  have hb : (Payload.text "^XA").encode = .ok [0x5E, 0x58, 0x41] := by rfl
  have hlink : ∀ r ∈ linkRecords script.factory endpoint (.text "^XA") s, change? r = none := by
    have hnone : linkRecords script.factory endpoint (.text "^XA") s = [] := by rfl
    simp [hnone]
  obtain ⟨hcourse, -, hlast, -, hlog⟩ := course_of_send script.factory endpoint s hb
  have htold : told = changes (records script.factory endpoint (.text "^XA") s) := hlog hlink
  refine ⟨hb, hlink, by rfl, ?_, ?_⟩
  · rw [htold]
    exact hcourse
  · rw [htold]
    exact hlast

end Session

end LabelPress
