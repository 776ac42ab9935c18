import LabelPress.Proofs.Session.DryRun

/-!
# What can be told of a send

A send to an endpoint of a kind, at a port that can be shown, comes to a delivery over any wire that
does not interrupt it (`exists_delivery`), and of every delivery that a send comes to there is a
summary (`summary_of_send`). A dry send has more to tell: the document, if the link was asked to write
it. The link has kept it then, and nothing else (`kept_of_dry_send`).
-/

namespace LabelPress

namespace Session

variable {κ σ : Type} {factory : Factory κ σ} {endpoint : Endpoint} {payload : Payload}
  {bytes : Bytes} {s : Session} {wire : Wire}

/-! ## Deliveries and their summaries -/

/-- What a factory over a wire builds for an endpoint that leads nowhere. -/
theorem built_of_refusal {p : AddressProblem} (hp : Line.target? endpoint = .error p) (wire : Wire)
    (s : Session) : (built wire.factory endpoint s).result = .error p.fault :=
  congrArg Run.result (Line.create_of_refusal hp wire s.timeout s.dryRun)

/-- A refusal that can be put into words is one of the address. -/
theorem kind_of_refusal {p : AddressProblem} (hp : Line.target? endpoint = .error p)
    {kind : LinkKind} (hkind : endpoint.kind = .kind kind)
    (hport : endpoint.port.isShowable = true) : p.fault.kind = .address := by
  have hword : endpoint.kind.toValue.isShowable = true := by
    rw [hkind]
    cases kind <;> rfl
  have hshow : p.isShowable = true := Line.isShowable_of_target? hword hport hp
  simp only [AddressProblem.fault, hshow, if_true]

/-- **A send to an endpoint of a kind comes to a delivery** over any wire that does not interrupt
it. -/
theorem exists_delivery (hb : payload.encode = .ok bytes) (hw : wire.IsUninterrupted)
    {kind : LinkKind} (hkind : endpoint.kind = .kind kind)
    (hport : endpoint.port.isShowable = true) (s : Session) :
    ∃ d, (send wire.factory endpoint payload s).result = .ok d := by
  cases ht : Line.target? endpoint with
  | error p =>
    have hbuilt := built_of_refusal ht wire s
    have haddress := kind_of_refusal ht hkind hport
    exact (send_eq_ok_iff_of_refusal hb hbuilt haddress).2 (Endpoint.isShowable_of_port hport)
  | ok target => exact send_delivers_of_target hb hw ht s

theorem summary_of_reported {r : Except Fault Delivery} {d : Delivery}
    (h : reported endpoint r = .ok d) : ∃ t, d.summary (some endpoint) = .ok t := by
  obtain ⟨t, -, ht⟩ := exists_line_of_reported h
  exact ⟨t, ht⟩

/-- **Every delivery of a send has a summary**, as the log has told it by then. -/
theorem summary_of_send (hb : payload.encode = .ok bytes) {d : Delivery}
    (h : (send factory endpoint payload s).result = .ok d) :
    ∃ t, d.summary (some endpoint) = .ok t := by
  cases hbuilt : (built factory endpoint s).result with
  | error f =>
    by_cases hf : f.kind = .address
    · simp only [send_of_refusal hb hbuilt hf] at h
      exact summary_of_reported h
    · rw [send_of_fault hb hbuilt hf] at h
      cases h
  | ok link =>
    simp only [send_of_link hb hbuilt] at h
    exact summary_of_reported h

/-! ## Dry sends -/

/-- What the link of the last send of a session has kept; nothing if there was no link. -/
def kept (s : Session) : List Bytes := (s.link.map LinkView.sent).getD []

/-- **A dry send calls no wire, and keeps the document if it is asked to write it.** -/
theorem kept_of_dry_send (hb : payload.encode = .ok bytes) (wire : Wire)
    {kind : LinkKind} (hkind : endpoint.kind = .kind kind)
    (hport : endpoint.port.isShowable = true) (hdry : s.dryRun = true) :
    let dry := send wire.factory endpoint payload s
    Event.calls dry.trace = [] ∧
      dry.state.kept = if Request.write bytes ∈ Event.requests dry.trace then [bytes] else [] := by
  intro dry
  cases ht : Line.target? endpoint with
  | error p =>
    have hbuilt := built_of_refusal ht wire s
    have haddress := kind_of_refusal ht hkind hport
    -- There is no link, and so nothing is asked and nothing kept.
    have hrequests : Event.requests dry.trace = [] := by
      rw [← Event.requests_dealings, dealings_send hb s, hbuilt, built,
        Line.create_of_refusal ht wire s.timeout s.dryRun]
      rfl
    have hlink : dry.state.link = none := by
      simp only [dry, send_of_refusal hb hbuilt haddress]
    refine ⟨calls_of_refusal hb wire ht s, ?_⟩
    rw [kept, hlink, hrequests]
    rfl
  | ok target =>
    have hbuilt := built_of_target ht wire s
    -- A dry link always opens, and an open link is asked to write.
    have hopens := (Line.takes_of_dry wire target s.timeout bytes).opens
    rw [hdry] at hbuilt
    have hrequests : Request.write bytes ∈ Event.requests dry.trace := by
      rw [← Event.requests_dealings, dealings_send hb s, Event.requests_append, hbuilt]
      dsimp only
      rw [requests_conversation, if_pos hopens]
      simp
    have hs : s = { s with dryRun := true } := by rw [← hdry]
    obtain ⟨hcalls, view, hview, hsent, -⟩ := send_dry_of_target hb wire ht s
    rw [← hs] at hcalls hview
    refine ⟨hcalls, ?_⟩
    rw [kept, hview, if_pos hrequests]
    exact hsent

end Session

end LabelPress
