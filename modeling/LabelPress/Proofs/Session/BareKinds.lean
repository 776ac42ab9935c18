import LabelPress.Proofs.Session.DryRun

/-!
# Kinds given as bare words

An endpoint may give its kind as a kind or as the bare word for it, and two that differ in no more
than that compare equal. What builds links and what words a refused connection take the word for the
kind that it names; the standard port and the text of an endpoint are kept for network links that
are given as a kind. So nothing tells the one endpoint from the other where they are of the radio
kind. Of two network endpoints, the one with the bare word has no port unless one is given, and is
refused for that, and its text leaves the port out (`bare_word_alike_iff`).
-/

namespace LabelPress

/-! ## The two endpoints -/

/-- What a kind compares by: a kind is a text, which is its word. -/
def KindGiven.comparand : KindGiven → Value
  | .kind k => .text k.word
  | .bare v => v

/-- A bare word names its kind. -/
@[simp] theorem KindGiven.kind?_word (k : LinkKind) : (bare (.text k.word)).kind? = some k := by
  cases k <;> rfl

namespace Endpoint

/-- What an endpoint compares by. -/
def comparand (e : Endpoint) : Value × AddressGiven × Value := (e.kind.comparand, e.address, e.port)

/-- The endpoint that gives its kind as one. -/
def ofKind (k : LinkKind) (address : AddressGiven) (port : Value) : Endpoint :=
  ⟨.kind k, address, port⟩

/-- The endpoint that gives the bare word for its kind. -/
def ofWord (k : LinkKind) (address : AddressGiven) (port : Value) : Endpoint :=
  ⟨.bare (.text k.word), address, port⟩

variable (k : LinkKind) (address : AddressGiven) (port : Value)

theorem comparand_ofWord : (ofWord k address port).comparand = (ofKind k address port).comparand :=
  rfl

/-- A bare word goes without the standard port, -/
theorem effectivePort_ofWord : (ofWord k address port).effectivePort = port := by
  cases k <;> rfl

theorem effectivePort_ofWord_eq_iff :
    (ofWord k address port).effectivePort = (ofKind k address port).effectivePort ↔
      (k = .network → port ≠ .null) := by
  rw [effectivePort_ofWord]
  cases k with
  | bluetooth => simp [ofKind, effectivePort, KindGiven.isNetworkKind]
  | network => cases port <;> simp [ofKind, effectivePort, KindGiven.isNetworkKind]

/-- and its text goes without any. -/
theorem describe_ofWord_eq_iff :
    (ofWord k address port).describe = (ofKind k address port).describe ↔ k = .bluetooth := by
  cases k with
  | bluetooth => exact iff_of_true rfl rfl
  | network =>
    refine iff_of_false (fun h => ?_) (by simp)
    cases address with
    | leftOut => cases h
    | text t =>
      have hlength := congrArg List.length (Value.text.inj h)
      simp [ofKind, AddressGiven.plain, AddressGiven.toValue, Value.plain, Text.ofString] at hlength

/-- It can always be shown. -/
theorem isShowable_ofWord : (ofWord k address port).isShowable = true := by
  cases k <;> rfl

/-- The other can if its port can. -/
theorem isShowable_ofKind_network :
    (ofKind .network address port).isShowable = port.isShowable := by
  cases port with
  | null => exact isShowable_of_port rfl
  | _ => simp [isShowable, ofKind, effectivePort, KindGiven.isNetworkKind]

end Endpoint

/-! ## The links to them -/

namespace Line

open Endpoint

variable {k : LinkKind} {address : AddressGiven} {port : Value}

theorem target?_ofWord_bluetooth :
    target? (ofWord .bluetooth address port) = target? (ofKind .bluetooth address port) := rfl

/-- Both network endpoints read the host first, -/
theorem target?_network_of_error (port : Value) {p : AddressProblem}
    (h : Address.readHost address.toText = .error p) :
    target? (ofWord .network address port) = .error p ∧
      target? (ofKind .network address port) = .error p := by
  constructor
  · rw [target?_of_network (KindGiven.kind?_word .network)]
    exact congrArg (· >>= _) h
  · rw [target?_of_network rfl]
    exact congrArg (· >>= _) h

/-- and then the port that is given, -/
theorem target?_network_of_port (address : AddressGiven) (h : port ≠ .null) :
    target? (ofWord .network address port) = target? (ofKind .network address port) := by
  have hport : (ofKind .network address port).effectivePort = port := effectivePort_of_port h
  rw [target?_of_network (KindGiven.kind?_word .network), target?_of_network rfl,
    effectivePort_ofWord, hport]
  rfl

/-- but the bare one refuses to go without, where the other takes the standard port. -/
theorem target?_network_of_null {host : Text} (h : Address.readHost address.toText = .ok host) :
    target? (ofWord .network address .null) = .error (.badPort .null) ∧
      ∃ target, target? (ofKind .network address .null) = .ok target := by
  constructor
  · rw [target?_of_host (KindGiven.kind?_word .network) h, effectivePort_ofWord]
    rfl
  · rw [target?_of_host rfl h]
    exact ⟨_, rfl⟩

/-- A bare word leads where the kind does, unless it is that of a network link, its port is left out
and its host is one. -/
theorem target?_ofWord_eq_iff :
    target? (ofWord k address port) = target? (ofKind k address port) ↔
      (k = .network → (Address.readHost address.toText).isOk = true → port ≠ .null) := by
  cases k with
  | bluetooth => exact iff_of_true target?_ofWord_bluetooth nofun
  | network =>
    cases h : Address.readHost address.toText with
    | error p =>
      obtain ⟨hword, hkind⟩ := target?_network_of_error port h
      exact iff_of_true (hword.trans hkind.symm) nofun
    | ok host =>
      refine ⟨?_, fun hport => target?_network_of_port address (hport rfl rfl)⟩
      rintro heq - - rfl
      obtain ⟨hword, target, hkind⟩ := target?_network_of_null h
      rw [hword, hkind] at heq
      cases heq

/-- So does the link that is built to it. -/
theorem toEndpoint?_ofWord_eq_iff :
    (∀ timeout dryRun, toEndpoint? (ofWord k address port) timeout dryRun =
        toEndpoint? (ofKind k address port) timeout dryRun) ↔
      (k = .network → (Address.readHost address.toText).isOk = true → port ≠ .null) := by
  rw [← target?_ofWord_eq_iff]
  refine ⟨fun h => ?_, fun h timeout dryRun => by rw [toEndpoint?_eq, toEndpoint?_eq, h]⟩
  rw [target?_eq_map_toEndpoint? _ .null false, h, ← target?_eq_map_toEndpoint?]

end Line

/-! ## The sends to them -/

namespace Session

open Endpoint

/-- Whether a send makes no difference between two endpoints: it ends alike, with the same calls. -/
def SendsAlike (wire : Wire) (payload : Payload) (s : Session) (a b : Endpoint) : Prop :=
  let x := send wire.factory a payload s
  let y := send wire.factory b payload s
  x.result = y.result ∧ Event.calls x.trace = Event.calls y.trace

variable {payload : Payload} {bytes : Bytes} {a b : Endpoint}

/-- Two endpoints that lead to the same place and are reported alike are sent to alike. -/
theorem sendsAlike_of_reported (ht : Line.target? a = Line.target? b)
    (hr : ∀ r, reported a r = reported b r) (wire : Wire) (s : Session) :
    SendsAlike wire payload s a b := by
  cases hb : payload.encode with
  | error f => simp [SendsAlike, send_of_unencodable hb]
  | ok bytes =>
    have hbuilt : built wire.factory a s = built wire.factory b s := by
      rw [built, built, Line.create_eq, Line.create_eq, ht]
    refine ⟨?_, by rw [calls_send hb, calls_send hb, hbuilt]⟩
    cases h : (built wire.factory b s).result with
    | ok link =>
      simp only [send_of_link hb (hbuilt ▸ h), send_of_link hb h, hr]
    | error f =>
      by_cases hf : f.kind = .address
      · simp only [send_of_refusal hb (hbuilt ▸ h) hf, send_of_refusal hb h hf, hr]
      · simp only [send_of_fault hb (hbuilt ▸ h) hf, send_of_fault hb h hf]

/-- So are two that are refused because of what cannot be put into words. -/
theorem sendsAlike_of_unshowable {p : AddressProblem} (hp : p.isShowable = false)
    (ha : Line.target? a = .error p) (hb : Line.target? b = .error p) (wire : Wire) (s : Session) :
    SendsAlike wire payload s a b := by
  cases hbytes : payload.encode with
  | error f => simp [SendsAlike, send_of_unencodable hbytes]
  | ok bytes =>
    have hfault : p.fault = .tooLong := by simp [AddressProblem.fault, hp]
    have hkind : p.fault.kind ≠ .address := by
      rw [hfault]
      decide
    have hbuiltA := congrArg Run.result (Line.create_of_refusal ha wire s.timeout s.dryRun)
    have hbuiltB := congrArg Run.result (Line.create_of_refusal hb wire s.timeout s.dryRun)
    refine ⟨?_, ?_⟩
    · rw [send_of_fault hbytes hbuiltA hkind, send_of_fault hbytes hbuiltB hkind]
    · rw [calls_of_refusal hbytes wire ha, calls_of_refusal hbytes wire hb]

variable {k : LinkKind} {address : AddressGiven} {port : Value}

/-- The line on a delivery has the same word for both, -/
theorem summary_ofWord (d : Delivery) :
    d.summary (some (ofWord k address port)) = d.summary (some (ofKind k address port)) := by
  have hword : (ofWord k address port).kind.word = (ofKind k address port).kind.word := by
    cases k <;> rfl
  cases ho : d.outcome <;> simp only [Delivery.summary, ho, hword]
  rfl

/-- so that it is reported alike unless the port of a kind cannot be shown. -/
theorem reported_ofWord (h : (ofKind k address port).isShowable = true)
    (r : Except Fault Delivery) :
    reported (ofWord k address port) r = reported (ofKind k address port) r := by
  cases r with
  | error f => rfl
  | ok d => simp only [reported, reportText, isShowable_ofWord, h, if_true, summary_ofWord]

/-- To a host whose port is left out, a document goes out if the kind is given as one, and not if it
is given as a word. -/
theorem not_sendsAlike_of_null (hb : payload.encode = .ok bytes) {host : Text}
    (h : Address.readHost address.toText = .ok host) (wire : Wire) (s : Session) :
    ¬ SendsAlike wire payload s (ofWord .network address .null)
      (ofKind .network address .null) := by
  obtain ⟨hword, target, hkind⟩ := Line.target?_network_of_null h
  have hbuilt := congrArg Run.result (Line.create_of_refusal hword wire s.timeout s.dryRun)
  have hrefuses : Refuses (send wire.factory (ofWord .network address .null) payload s).result
      (some (AddressProblem.badPort .null).fault.message) :=
    (refuses_iff hb _).2 ⟨_, hbuilt, rfl, _, rfl, rfl, rfl⟩
  rintro ⟨hresult, -⟩
  rw [hresult, refuses_iff hb] at hrefuses
  obtain ⟨f, hf, -⟩ := hrefuses
  cases (built_of_target hkind wire s).symm.trans hf

/-- That a host is refused can be told in any case if the kind is given as a word, and only with a
port that can be shown if it is given as one. -/
theorem not_sendsAlike_of_unshowable (hb : payload.encode = .ok bytes) {p : AddressProblem}
    (h : Address.readHost address.toText = .error p) (hport : port.isShowable = false)
    (wire : Wire) (s : Session) :
    ¬ SendsAlike wire payload s (ofWord .network address port) (ofKind .network address port) := by
  obtain ⟨hword, hkind⟩ := Line.target?_network_of_error port h
  have hrefusal : p.fault.kind = .address := by
    simp [AddressProblem.fault, Address.isShowable_of_readHost h]
  have hbuiltWord := congrArg Run.result (Line.create_of_refusal hword wire s.timeout s.dryRun)
  have hbuiltKind := congrArg Run.result (Line.create_of_refusal hkind wire s.timeout s.dryRun)
  rintro ⟨hresult, -⟩
  obtain ⟨d, hd⟩ :=
    (send_eq_ok_iff_of_refusal hb hbuiltWord hrefusal).2 (isShowable_ofWord _ _ _)
  have hshow := (send_eq_ok_iff_of_refusal hb hbuiltKind hrefusal).1 ⟨d, hresult.symm.trans hd⟩
  rw [isShowable_ofKind_network, hport] at hshow
  cases hshow

/-- **When sends make no difference between a bare word and a kind.** -/
theorem sendsAlike_ofWord_iff (hb : payload.encode = .ok bytes) (wire : Wire) (s : Session) :
    SendsAlike wire payload s (ofWord k address port) (ofKind k address port) ↔
      (k = .network → if (Address.readHost address.toText).isOk then port ≠ .null
        else port.isShowable = true) := by
  cases k with
  | bluetooth =>
    exact iff_of_true
      (sendsAlike_of_reported Line.target?_ofWord_bluetooth (reported_ofWord rfl) wire s) nofun
  | network =>
    simp only [forall_const]
    cases h : Address.readHost address.toText with
    | error p =>
      obtain ⟨hword, hkind⟩ := Line.target?_network_of_error port h
      change _ ↔ port.isShowable = true
      cases hport : port.isShowable with
      | false => exact iff_of_false (not_sendsAlike_of_unshowable hb h hport wire s) (by simp)
      | true =>
        have hshow := (isShowable_ofKind_network address port).trans hport
        exact iff_of_true
          (sendsAlike_of_reported (hword.trans hkind.symm) (reported_ofWord hshow) wire s) rfl
    | ok host =>
      change _ ↔ port ≠ .null
      refine ⟨?_, fun hport => ?_⟩
      · rintro halike rfl
        exact not_sendsAlike_of_null hb h wire s halike
      · have ht := Line.target?_network_of_port address hport
        have hword := Line.target?_of_host (e := ofWord .network address port)
          (KindGiven.kind?_word .network) h
        rw [effectivePort_ofWord] at hword
        cases hshow : port.isShowable with
        | true =>
          have hshow := (isShowable_ofKind_network address port).trans hshow
          exact sendsAlike_of_reported ht (reported_ofWord hshow) wire s
        | false =>
          -- No port that cannot be shown is in range, and its refusal cannot be told.
          have hport : Address.readPort port = .error (.badPort port) :=
            Address.readPort_of_unshowable hshow
          rw [hport] at hword
          have hp : (AddressProblem.badPort port).isShowable = false := hshow
          exact sendsAlike_of_unshowable hp hword (ht.symm.trans hword) wire s

/-- Whether nothing that is made of two endpoints tells them apart: the port to use, the text, the
link that is built or the refusal, and every send. -/
structure Alike (a b : Endpoint) : Prop where
  effectivePort : a.effectivePort = b.effectivePort
  describe : a.describe = b.describe
  toEndpoint? : ∀ timeout dryRun,
    Line.toEndpoint? a timeout dryRun = Line.toEndpoint? b timeout dryRun
  sendsAlike : ∀ wire payload s, SendsAlike wire payload s a b

/-- **When a bare word acts as the kind that it names.** Two endpoints, of which the one gives its
kind as a bare word and the other as a kind, compare equal. Nothing tells them apart exactly if they
are of the radio kind. Two network endpoints always differ in their text. They have the same port to
use exactly if one is given; the same link is built to both, or both are refused in the same way,
exactly if a port is given or the host is refused; and a send makes no difference between them
exactly if a port is given, or, where the host is refused, the port can be shown. -/
theorem bare_word_alike_iff (k : LinkKind) (address : AddressGiven) (port : Value) :
    let bare := ofWord k address port
    let given := ofKind k address port
    let hasHost := (Address.readHost address.toText).isOk
    bare.comparand = given.comparand ∧
      (Alike bare given ↔ k = .bluetooth) ∧
      (bare.describe = given.describe ↔ k = .bluetooth) ∧
      (bare.effectivePort = given.effectivePort ↔ (k = .network → port ≠ .null)) ∧
      ((∀ timeout dryRun,
          Line.toEndpoint? bare timeout dryRun = Line.toEndpoint? given timeout dryRun) ↔
        (k = .network → hasHost = true → port ≠ .null)) ∧
      ∀ wire payload s, payload.encode.isOk = true →
        (SendsAlike wire payload s bare given ↔
          (k = .network → if hasHost then port ≠ .null else port.isShowable = true)) := by
  intro bare given hasHost
  refine ⟨comparand_ofWord k address port, ⟨fun h => ?_, ?_⟩, describe_ofWord_eq_iff k address port,
    effectivePort_ofWord_eq_iff k address port, Line.toEndpoint?_ofWord_eq_iff, ?_⟩
  · exact (describe_ofWord_eq_iff k address port).1 h.describe
  · rintro rfl
    exact {
      effectivePort := rfl
      describe := rfl
      toEndpoint? := fun _ _ => rfl
      sendsAlike := fun wire payload s =>
        sendsAlike_of_reported Line.target?_ofWord_bluetooth (reported_ofWord rfl) wire s }
  · intro wire payload s hpayload
    cases hb : payload.encode with
    | error f =>
      rw [hb] at hpayload
      cases hpayload
    | ok bytes => exact sendsAlike_ofWord_iff hb wire s

/-- A network endpoint whose port is given is sent to alike, also over a wire that refuses. -/
theorem sendsAlike_with_port :
    let wire : Wire := { connect := some ⟨.connectionRefused, "refused"⟩ }
    let s : Session := { timeout := .int 5, dryRun := false }
    (Payload.text "^XA").encode.isOk = true ∧
      SendsAlike wire (.text "^XA") s (ofWord .network (.text "10.0.0.5") (.int 9101))
        (ofKind .network (.text "10.0.0.5") (.int 9101)) := by
  intro wire s
  have hpayload : (Payload.text "^XA").encode.isOk = true := by rfl
  obtain ⟨-, -, -, -, -, hsends⟩ :=
    bare_word_alike_iff .network (.text "10.0.0.5") (.int 9101)
  refine ⟨hpayload, (hsends wire _ s hpayload).2 fun _ => ?_⟩
  rw [if_pos (by rfl)]
  simp

/-- **A bare network endpoint is refused where the other is sent to**, although the two compare
equal: it has no port, and its text shows none. -/
theorem bare_network_word_refused :
    let bare : Endpoint := ⟨.bare (.text "network"), .text "10.0.0.5", .null⟩
    let given : Endpoint := ⟨.kind .network, .text "10.0.0.5", .null⟩
    let s : Session := { timeout := .int 5, dryRun := false }
    bare.comparand = given.comparand ∧
      bare.effectivePort = .null ∧ given.effectivePort = .int 9100 ∧
      bare.describe = .text "10.0.0.5" ∧ given.describe = .text "10.0.0.5:9100" ∧
      (send (Wire.factory {}) bare (.text "^XA") s).result = .ok {
        outcome := .addressInvalid, sent := .int 0, total := 3,
        detail := some "invalid TCP port: None" } ∧
      (∃ d, (send (Wire.factory {}) given (.text "^XA") s).result = .ok d ∧ d.outcome = .sent) ∧
      ¬ Alike bare given := by
  intro bare given s
  have hb : (Payload.text "^XA").encode = .ok [0x5E, 0x58, 0x41] := by rfl
  have hw : Wire.IsUninterrupted {} := by constructor <;> simp
  have ht : Line.target? given = .ok (.network "10.0.0.5" ⟨9100, by decide, by decide⟩) := by rfl
  obtain ⟨d, hd⟩ := send_delivers_of_target hb hw ht s
  obtain ⟨houtcome, -⟩ := account_of_live_send (s := s) hb hw ht hd
  refine ⟨rfl, rfl, rfl, rfl, by rfl, by rfl, ⟨d, hd, houtcome⟩, fun h => ?_⟩
  cases h.effectivePort

end Session

end LabelPress
