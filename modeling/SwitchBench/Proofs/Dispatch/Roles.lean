import SwitchBench.Proofs.Dispatch.Requests
import SwitchBench.Proofs.Message.Wire

/-! The bench at hand and a server agree.

A command that is put to a server goes out as a request, is answered and comes back as
a response. It leaves the bench behind the server as it would leave the bench at hand,
and its result is told over the network in one fixed way (`Command.overNetwork`). -/
namespace SwitchBench

namespace Command

/-- How a failure at hand is told over the network: a failed open or close without its
reason, any other failure of a switch with its class and wording, save that a switch
that does not answer is known as such. -/
def failureOverNetwork (c : Command) (e : DispatchError) : DispatchError :=
  if c.isDevice then .remote ⟨.device, "fail"⟩
  else match e with
    | .device e => .remote ⟨e.kind, e.message⟩
    | e => e

/-- How a result at hand is told over the network: a reply is told as it is. -/
def overNetwork (c : Command) (r : Except DispatchError Reply) : Except DispatchError Reply :=
  r.mapError c.failureOverNetwork

end Command

/-! ### Texts that are replies -/

/-- A text that stands for a failure in a response. -/
def Response.signals : List String := ["fail", "Invalid command"]

theorem Snapshot.report_not_signal (s : Snapshot) (p : Parameter) : s.report p ∉ Response.signals := by
  have hhead : ∀ {t : String} {c : Char}, t.toList.head? = some c → c ≠ 'f' → c ≠ 'I' →
      t ∉ Response.signals := by
    intro t c ht hf hI hmem
    simp only [Response.signals, List.mem_cons, List.not_mem_nil, or_false] at hmem
    rcases hmem with rfl | rfl
    · exact hf (Option.some.inj ht).symm
    · exact hI (Option.some.inj ht).symm
  have hliteral : ∀ t : String, toString t = t := fun _ => rfl
  cases p with
  | status => exact hhead (c := 'p') (by simp [report, hliteral]) (by decide) (by decide)
  | volts =>
    simp only [report]
    split <;> decide
  | amps =>
    simp only [report]
    split <;> decide
  | version => exact hhead (c := 's') (by simp [report, hliteral]) (by decide) (by decide)

/-- What a switch answers is what the command asks it for. -/
theorem Bench.command_ok {α : Type} {b : Bench} {id : SwitchId} {refuse : Model → Option SwitchError}
    {act : Snapshot → α × Snapshot} {a : α} (h : (b.command id refuse act).1 = .ok a) :
    ∃ s, a = (act s).1 := by
  unfold command at h
  split at h
  · cases h
  · split at h
    · cases h
    · split at h
      · cases h
      next s _ => exact ⟨s, (Except.ok.inj h).symm⟩

/-- An open or a close answers with the acknowledgement. -/
theorem Bench.perform_isDevice {b : Bench} {c : Command} {t : String} (hc : c.isDevice = true)
    (h : (b.perform c).1 = .ok t) : t = acknowledgement := by
  have hmap : ∀ {α : Type} {r : Except SwitchError α}, (r.map fun _ => acknowledgement) = .ok t →
      t = acknowledgement := by
    intro α r hr
    cases r with
    | error e => cases hr
    | ok a => exact (Except.ok.inj hr).symm
  cases c with
  | connect id via baud => exact hmap (r := (b.connect id).1) h
  | disconnect id => exact hmap (r := (b.disconnect id).1) h
  | port _ _ | speed _ _ | read _ _ => cases hc

/-- No reply reads like a failure. -/
theorem Bench.perform_not_signal {b : Bench} {c : Command} {t : String}
    (h : (b.perform c).1 = .ok t) : t ∉ Response.signals := by
  have hack : acknowledgement ∉ Response.signals := by decide
  cases c with
  | connect _ _ _ | disconnect _ => rw [perform_isDevice rfl h]; exact hack
  | port id n =>
    obtain ⟨s, rfl⟩ := command_ok h
    exact hack
  | speed id mode =>
    obtain ⟨s, rfl⟩ := command_ok h
    exact hack
  | read id p =>
    obtain ⟨s, rfl⟩ := command_ok h
    exact s.report_not_signal p

/-! ### Responses -/

namespace Response

/-- A text that signals nothing is a reply. -/
theorem reply_text {s : String} (h : s ∉ signals) (id : SwitchId) :
    (text s).reply id = .ok (.ofText s) := by
  have hfail : s ≠ "fail" := fun he => h (by rw [he]; decide)
  have hinvalid : s ≠ "Invalid command" := fun he => h (by rw [he]; decide)
  have hfault : (text s).fault? = none := rfl
  rw [reply, hfault]
  simp [isInvalid, text?, text, fail, invalid, Json.text?, hfail, hinvalid, Reply.ofText]

theorem reply_fail (id : SwitchId) : fail.reply id = .error (.remote ⟨.device, "fail"⟩) := by
  have hfault : fail.fault? = none := rfl
  have hinvalid : fail.isInvalid = false := by decide
  simp [reply, hfault, hinvalid]

theorem reply_fault (id : SwitchId) (f : Fault) : (fault f).reply id = .error (.ofFault id f) := by
  have hfault : (fault f).fault? = some f := f.ofJson?_json
  simp [reply, hfault]

end Response

theorem benchSink_snd (c : Command) (b : Bench) : (benchSink c b).2 = (b.perform c).2 := by
  unfold benchSink
  cases b.perform c with
  | mk r b => cases r <;> rfl

namespace Command

theorem isOk_overNetwork (c : Command) (r : Except DispatchError Reply) :
    (c.overNetwork r).isOk = r.isOk := by
  cases r <;> rfl

/-- The data of a response to a command are flat enough to be read. -/
theorem response_nested (c : Command) (result : Except SwitchError String) :
    Json.Nested Json.Record.room (c.response result).data := by
  unfold response
  split
  · cases result <;> exact .string _
  · cases result with
    | ok t => exact .string t
    | error e => exact (Fault.ofError e).json_nested

/-- A command that was carried out is answered with its text. -/
theorem response_ok {c : Command} {b : Bench} {t : String} (h : (b.perform c).1 = .ok t) :
    c.response (.ok t) = .text t := by
  unfold response
  split
  next hdevice => rw [Bench.perform_isDevice hdevice h]; rfl
  · rfl

/-- The response to a command says over the network what its result says at hand. -/
theorem reply_response (c : Command) (b : Bench) :
    (c.response (b.perform c).1).reply c.id = c.overNetwork (benchSink c b).1 := by
  cases hr : (b.perform c).1 with
  | ok t =>
    have hbench : (benchSink c b).1 = .ok (.ofText t) := by
      rw [benchSink, show b.perform c = (.ok t, (b.perform c).2) by rw [← hr]]
    rw [hbench, response_ok hr]
    exact Response.reply_text (Bench.perform_not_signal hr) c.id
  | error e =>
    have hbench : (benchSink c b).1 = .error (.ofSwitchError c.id e) := by
      rw [benchSink, show b.perform c = (.error e, (b.perform c).2) by rw [← hr]]
    rw [hbench]
    show _ = Except.error (c.failureOverNetwork (.ofSwitchError c.id e))
    unfold response failureOverNetwork
    by_cases hdevice : c.isDevice = true
    · rw [if_pos hdevice, if_pos hdevice]
      exact Response.reply_fail c.id
    · rw [if_neg hdevice, if_neg hdevice]
      refine (Response.reply_fault c.id _).trans ?_
      cases e <;> rfl

end Command

/-- **The bench at hand and a server agree** on every command to a proper identifier
whose messages can be read: both leave the same bench, and the server's result is the
one at hand as it is told over the network. A reply is one on both sides or on neither,
and a tripped interlock refuses port commands on both. -/
theorem Sink.guarded_network_agrees (limit : Nat) (endpoint : String) (tripped : Bool) {c : Command}
    (hid : c.id.Proper) (b : Bench) (hrequest : c.request.bytes.length ≤ messageLimit)
    (hresponse : (b.answer limit c.request).1.bytes.length ≤ messageLimit) :
    let here := benchSink.guarded tripped c b
    let there := (networkSink endpoint (serverLink limit)).guarded tripped c b
    there.2 = here.2 ∧ there.1 = c.overNetwork here.1 ∧ there.1.isOk = here.1.isOk ∧
      (c.setsPort = true → tripped = true →
        here.1 = .error .interlock ∧ there.1 = .error .interlock) := by
  have hanswer := b.answer_request hid limit
  have hserve : serverLink limit c.request.bytes b =
      (.answered (c.response (b.perform c).1).bytes .closes, (b.perform c).2) := by
    have hread := c.request.read_bytes_append hrequest .closes []
    rw [List.append_nil] at hread
    simp only [serverLink, Bench.serve, hread, hanswer]
    rfl
  have hdelivered : (Delivery.answered (c.response (b.perform c).1).bytes .closes).response =
      .ok (c.response (b.perform c).1) := by
    rw [hanswer] at hresponse
    have hread := (c.response (b.perform c).1).read_bytes_append (c.response_nested _) hresponse .closes []
    rw [List.append_nil] at hread
    simp only [Delivery.response, hread]
  have hnetwork : networkSink endpoint (serverLink limit) c b =
      (c.overNetwork (benchSink c b).1, (benchSink c b).2) := by
    rw [benchSink_snd, ← c.reply_response b]
    simp only [networkSink, hserve, hdelivered]
  intro here there
  by_cases hrefused : (c.setsPort && tripped) = true
  · have hhere : here = (.error .interlock, b) := if_pos hrefused
    have hthere : there = (.error .interlock, b) := if_pos hrefused
    rw [hhere, hthere]
    have hport : c.isDevice = false := by
      cases c <;> first | rfl | cases hrefused
    refine ⟨rfl, ?_, rfl, fun _ _ => ⟨rfl, rfl⟩⟩
    show _ = Except.error (c.failureOverNetwork .interlock)
    simp [Command.failureOverNetwork, hport]
  · have hhere : here = benchSink c b := if_neg hrefused
    have hthere : there = (c.overNetwork (benchSink c b).1, (benchSink c b).2) :=
      (if_neg hrefused).trans hnetwork
    rw [hhere, hthere]
    refine ⟨rfl, rfl, c.isOk_overNetwork _, fun hport htripped => ?_⟩
    rw [hport, htripped] at hrefused
    exact absurd rfl hrefused

/-- A port beyond those of the model is refused at hand and reported by a server. -/
theorem Sink.guarded_network_agrees_com7 :
    let c : Command := .port ⟨"COM7"⟩ 3
    let b : Bench := ⟨.listed [(⟨"COM7"⟩, .m3141)], .ofList [(⟨"COM7"⟩, .m3141)]⟩
    (benchSink.guarded false c b).1 = .error (.device (.noSuchPort ⟨"COM7"⟩ .m3141 3)) ∧
      ((networkSink "localhost:5000" (serverLink 5000)).guarded false c b).1 =
        c.overNetwork (benchSink.guarded false c b).1 :=
  ⟨rfl, (Sink.guarded_network_agrees 5000 "localhost:5000" false ⟨by decide, by decide⟩ _
    (by decide) (by decide)).2.1⟩

end SwitchBench
