import LabelPress.Session.Send

/-!
# Building links over a wire

What an endpoint leads to is settled by its kind, address and port alone (`Line.target?`): the time
limit and the dry run go into the link and have no say in whether there is one. A refusal shows the
port or the kind that it refuses, and so it can be put into words whenever those can.
-/

namespace LabelPress

/-- The kind of link that leads to a target. -/
def Target.kind : Target → LinkKind
  | .network .. => .network
  | .radio .. => .bluetooth

/-- A port that is given is the one to use. -/
theorem Endpoint.effectivePort_of_port {e : Endpoint} (h : e.port ≠ .null) :
    e.effectivePort = e.port := by
  unfold effectivePort
  split
  · contradiction
  · rfl

namespace Line

/-- Where an endpoint leads. -/
def target? (e : Endpoint) : Except AddressProblem Target :=
  match e.kind.kind? with
  | none => .error (.unknownKind e.kind.toValue)
  | some .network => do
    let host ← Address.readHost e.address.toText
    let port ← Address.readPort e.effectivePort
    return .network host port
  | some .bluetooth =>
    match e.port with
    | .null => (Address.readDevice e.address.toText).map (.radio · standardChannel)
    | _ => .error .unusedPort

/-- The link that a session with a time limit builds to a target. -/
def fresh (target : Target) (timeout : Value) (dryRun : Bool) : Link Line :=
  { carrier := { target }, timeout, dryRun }

/-- **A link is built to the target of its endpoint.** -/
theorem toEndpoint?_eq (e : Endpoint) (timeout : Value) (dryRun : Bool) :
    toEndpoint? e timeout dryRun = (target? e).map (fresh · timeout dryRun) := by
  simp only [toEndpoint?, target?]
  cases e.kind.kind? with
  | none => rfl
  | some kind =>
    cases kind with
    | network =>
      simp only [toHost?]
      cases Address.readHost e.address.toText with
      | error p => rfl
      | ok host => cases Address.readPort e.effectivePort <;> rfl
    | bluetooth =>
      cases e.port with
      | null =>
        simp only [toDevice?]
        cases Address.readDevice e.address.toText <;> rfl
      | _ => rfl

/-- So a factory over a wire builds it without a word to the wire, or raises the refusal. -/
theorem create_eq (wire : Wire) (e : Endpoint) (timeout : Value) (dryRun : Bool) :
    wire.factory.create e timeout dryRun () =
      ⟨((target? e).map (fresh · timeout dryRun)).mapError AddressProblem.fault, (), []⟩ := by
  simp only [Wire.factory, toEndpoint?_eq, Action.ofExcept_apply]

theorem create_of_target {e : Endpoint} {target : Target} (h : target? e = .ok target)
    (wire : Wire) (timeout : Value) (dryRun : Bool) :
    wire.factory.create e timeout dryRun () = ⟨.ok (fresh target timeout dryRun), (), []⟩ := by
  rw [create_eq, h]
  rfl

theorem create_of_refusal {e : Endpoint} {p : AddressProblem} (h : target? e = .error p)
    (wire : Wire) (timeout : Value) (dryRun : Bool) :
    wire.factory.create e timeout dryRun () = ⟨.error p.fault, (), []⟩ := by
  rw [create_eq, h]
  rfl

/-- A link leads where its endpoint does. -/
theorem target?_of_toEndpoint? {e : Endpoint} {timeout : Value} {dryRun : Bool} {link : Link Line}
    (h : toEndpoint? e timeout dryRun = .ok link) : target? e = .ok link.carrier.target := by
  rw [toEndpoint?_eq] at h
  cases ht : target? e with
  | error p => simp [ht, Except.map] at h
  | ok target =>
    obtain rfl : fresh target timeout dryRun = link := by simpa [ht, Except.map] using h
    rfl

/-- And its endpoint leads where the link does, or is refused with it. -/
theorem target?_eq_map_toEndpoint? (e : Endpoint) (timeout : Value) (dryRun : Bool) :
    target? e = (toEndpoint? e timeout dryRun).map fun link => link.carrier.target := by
  rw [toEndpoint?_eq]
  cases target? e <;> rfl

/-- The ways from an endpoint to a target, each with the refusals that can end it. -/
theorem target?_cases (e : Endpoint) :
    (e.kind.kind? = none ∧ target? e = .error (.unknownKind e.kind.toValue)) ∨
    (e.kind.kind? = some .network ∧
      ((∃ p, Address.readHost e.address.toText = .error p ∧ target? e = .error p) ∨
        (∃ p, Address.readPort e.effectivePort = .error p ∧ target? e = .error p) ∨
        ∃ host port, target? e = .ok (.network host port))) ∨
    (e.kind.kind? = some .bluetooth ∧
      (target? e = .error .unusedPort ∨
        (∃ p, Address.readDevice e.address.toText = .error p ∧ target? e = .error p) ∨
        ∃ device, target? e = .ok (.radio device standardChannel))) := by
  unfold target?
  cases e.kind.kind? with
  | none => exact .inl ⟨rfl, rfl⟩
  | some kind =>
    cases kind with
    | network =>
      refine .inr (.inl ⟨rfl, ?_⟩)
      cases Address.readHost e.address.toText with
      | error p => exact .inl ⟨p, rfl, rfl⟩
      | ok host =>
        cases Address.readPort e.effectivePort with
        | error p => exact .inr (.inl ⟨p, rfl, rfl⟩)
        | ok port => exact .inr (.inr ⟨host, port, rfl⟩)
    | bluetooth =>
      refine .inr (.inr ⟨rfl, ?_⟩)
      -- A port is refused as such, and before the address is read.
      cases e.port with
      | null =>
        cases Address.readDevice e.address.toText with
        | error p => exact .inr (.inl ⟨p, rfl, rfl⟩)
        | ok device => exact .inr (.inr ⟨device, rfl⟩)
      | _ => exact .inl rfl

/-- A network endpoint leads to its host, which is read first, at its port. -/
theorem target?_of_network {e : Endpoint} (h : e.kind.kind? = some .network) :
    target? e = (do
      let host ← Address.readHost e.address.toText
      let port ← Address.readPort e.effectivePort
      return .network host port) := by
  simp only [target?, h]

/-- Once the host has been read, it is all up to the port. -/
theorem target?_of_host {e : Endpoint} (h : e.kind.kind? = some .network) {host : Text}
    (hhost : Address.readHost e.address.toText = .ok host) :
    target? e = (Address.readPort e.effectivePort).map (.network host) := by
  rw [target?_of_network h, hhost]
  cases Address.readPort e.effectivePort <;> rfl

/-- A target is of the kind that the endpoint is of. -/
theorem kind?_of_target? {e : Endpoint} {target : Target} (h : target? e = .ok target) :
    e.kind.kind? = some target.kind := by
  rcases target?_cases e with ⟨-, ht⟩ | ⟨hk, ⟨p, -, ht⟩ | ⟨p, -, ht⟩ | ⟨host, port, ht⟩⟩ |
    ⟨hk, ht | ⟨p, -, ht⟩ | ⟨device, ht⟩⟩
  all_goals rw [ht] at h
  all_goals cases h
  all_goals exact hk

end Line

/-! ## Refusals -/

theorem Digits.fits_of_natAbs_lt {n : Int} (h : n.natAbs < 100000) : fits n = true := by
  have hpow : 10 ^ 5 ≤ 10 ^ limit := Nat.pow_le_pow_right (by decide) (by decide)
  simp only [fits, decide_eq_true_eq, Nat.pow_eq]
  omega

/-- The standard port is short enough to be written. -/
theorem Endpoint.isShowable_effectivePort {e : Endpoint} (h : e.port.isShowable = true) :
    e.effectivePort.isShowable = true := by
  unfold effectivePort
  split
  · exact Digits.fits_of_natAbs_lt (by decide)
  · exact h

theorem Endpoint.isShowable_of_port {e : Endpoint} (h : e.port.isShowable = true) :
    e.isShowable = true := by
  simp [Endpoint.isShowable, isShowable_effectivePort h]

namespace Address

theorem isShowable_of_readHost {t : Text} {p : AddressProblem} (h : readHost t = .error p) :
    p.isShowable = true := by
  simp only [readHost] at h
  repeat' split at h
  all_goals cases h
  all_goals rfl

theorem isShowable_of_readDevice {t : Text} {p : AddressProblem} (h : readDevice t = .error p) :
    p.isShowable = true := by
  simp only [readDevice] at h
  repeat' split at h
  all_goals cases h
  all_goals rfl

theorem isShowable_of_readPort {v : Value} {p : AddressProblem} (hv : v.isShowable = true)
    (h : readPort v = .error p) : p.isShowable = true := by
  unfold readPort at h
  repeat' split at h
  all_goals cases h
  all_goals exact hv

end Address

/-- **A refusal can be put into words** if the kind and the port of the endpoint can. -/
theorem Line.isShowable_of_target? {e : Endpoint} {p : AddressProblem}
    (hkind : e.kind.toValue.isShowable = true) (hport : e.port.isShowable = true)
    (h : target? e = .error p) : p.isShowable = true := by
  rcases target?_cases e with ⟨-, ht⟩ | ⟨-, ⟨q, hq, ht⟩ | ⟨q, hq, ht⟩ | ⟨host, port, ht⟩⟩ |
    ⟨-, ht | ⟨q, hq, ht⟩ | ⟨device, ht⟩⟩
  all_goals rw [ht] at h
  all_goals cases h
  · exact hkind
  · exact Address.isShowable_of_readHost hq
  · exact Address.isShowable_of_readPort (Endpoint.isShowable_effectivePort hport) hq
  · rfl
  · exact Address.isShowable_of_readDevice hq

/-! ## Endpoints that lead somewhere -/

/-- A port in range is short enough to be written. -/
theorem Address.isShowable_of_readPort_eq_ok {v : Value} {port : Port}
    (h : readPort v = .ok port) : v.isShowable = true := by
  unfold readPort at h
  split at h
  · next n =>
    split at h
    · next hrange => exact Digits.fits_of_natAbs_lt (by omega)
    · cases h
  · cases h

/-- One that is too long to be written is refused. -/
theorem Address.readPort_of_unshowable {v : Value} (h : v.isShowable = false) :
    readPort v = .error (.badPort v) := by
  cases hport : readPort v with
  | ok port =>
    rw [isShowable_of_readPort_eq_ok hport] at h
    cases h
  | error p =>
    unfold readPort at hport
    repeat' split at hport
    all_goals cases hport
    all_goals rfl

/-- **An endpoint that leads to a target can be shown.** -/
theorem Line.isShowable_of_target?_eq_ok {e : Endpoint} {target : Target}
    (h : target? e = .ok target) : e.isShowable = true := by
  unfold Endpoint.isShowable
  cases hkind : e.kind.isNetworkKind with
  | false => rfl
  | true =>
    -- Only the network kind shows its port, and that port has been read.
    have hk : e.kind.kind? = some .network := by
      unfold KindGiven.isNetworkKind at hkind
      split at hkind
      next heq => rw [heq]; rfl
      next => cases hkind
    simp only [target?, hk] at h
    cases hhost : Address.readHost e.address.toText with
    | error p => simp [hhost, Bind.bind, Except.bind] at h
    | ok host =>
      cases hport : Address.readPort e.effectivePort with
      | error p => simp [hhost, hport, Bind.bind, Except.bind] at h
      | ok port => exact Address.isShowable_of_readPort_eq_ok hport

end LabelPress
