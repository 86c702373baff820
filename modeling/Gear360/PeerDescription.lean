import Gear360.WifiSession

namespace Gear360

open Interaction
open Interaction.Prog (perform fromResult)

/-- The session once the camera's connection-layer mode is known. -/
def crcSession (session : SapSession) (request : Bytes) : SapSession :=
  { session with useCrc := (if 20 ≤ request.length then (request.getD 19 0).toNat else 0) = 1 }

/-- The runs of the PD exchange: the camera's frame is read, and there is no session, after an
error line perhaps; or it is answered, and there is a session if the answer could be written. -/
inductive PdRun (session : SapSession) :
    List SessionEvent → Except PyErr (Option SapSession) → Prop where
  | ended {x : Except PyErr (Option Bytes)} {lines : List SessionEvent}
      {r : Except PyErr (Option SapSession)}
      (hlines : lines = [] ∨ ∃ text y, lines = [⟨.logError text, y⟩])
      (hr : ∀ session', r ≠ .ok (some session')) :
      PdRun session (⟨.readFrame session 15000, x⟩ :: lines) r
  | answered {request response : Bytes} {protoVersion swVersion : ℕ} {y : Except PyErr Unit}
      (hkind : request.head? = some 5) (hproto : unpackH (slice request 1 3) = .ok protoVersion)
      (hsw : unpackH (slice request 3 5) = .ok swVersion)
      (hresponse : makePeerDescriptionResponse protoVersion swVersion = .ok response) :
      PdRun session [⟨.readFrame session 15000, .ok (some request)⟩,
        ⟨.sendFrame (crcSession session request) response, y⟩]
        (y.map fun _ => some (crcSession session request))

theorem run_sendFrame_cases {session : SapSession} {payload : Bytes} {t : List SessionEvent}
    {r : Except PyErr Unit} (h : Run (Session.sendFrame session payload) t r) :
    (∃ e, t = [] ∧ r = .error e) ∨ t = [⟨.sendFrame session payload, r⟩] := by
  rcases run_fromResult_bind_cases h with ⟨e, -, he⟩ | ⟨length, -, hsend⟩
  · exact .inl ⟨e, he⟩
  · exact .inr (run_perform_iff.mp hsend)

theorem pdRun_logError {session : SapSession} {x : Except PyErr (Option Bytes)} {text : String}
    {t : List SessionEvent} {r : Except PyErr (Option SapSession)}
    (h : Run (Session.logError text >>= fun _ => pure none) t r) :
    PdRun session (⟨.readFrame session 15000, x⟩ :: t) r := by
  rcases run_bind_cases h with ⟨e, he, rfl⟩ | ⟨t₁, _, t₂, h₁, h₂, rfl⟩
  · exact .ended (.inr ⟨text, _, run_perform_iff.mp he⟩) (fun _ h => nomatch h)
  · obtain ⟨rfl, rfl⟩ := run_ret_iff.mp h₂
    rw [List.append_nil, run_perform_iff.mp h₁]
    exact .ended (.inr ⟨text, _, rfl⟩) (fun _ h => nomatch h)

theorem run_exchangePeerDescription {session : SapSession} {t : List SessionEvent}
    {r : Except PyErr (Option SapSession)} (h : Run (exchangePeerDescription session) t r) :
    PdRun session t r := by
  obtain ⟨x, u, rfl, hu⟩ := run_call_iff.mp h
  clear h
  -- every exception after the read leaves a run with the read alone
  have hfails (h : ∃ e, u = [] ∧ r = .error e) :
      PdRun session (⟨.readFrame session 15000, x⟩ :: u) r := by
    obtain ⟨e, rfl, rfl⟩ := h
    exact .ended (.inl rfl) (fun _ h => nomatch h)
  match x with
  | .error e => exact hfails ⟨e, run_raise_iff.mp hu⟩
  | .ok none | .ok (some []) => exact pdRun_logError hu
  | .ok (some (kind :: rest)) =>
    change Run (if kind ≠ 5 then _ else _) u r at hu
    by_cases hkind : kind ≠ 5
    · rw [if_pos hkind] at hu
      exact pdRun_logError hu
    rw [if_neg hkind] at hu
    rcases run_fromResult_bind_cases hu with ⟨e, -, he⟩ | ⟨protoVersion, hproto, hu⟩
    · exact hfails ⟨e, he⟩
    rcases run_fromResult_bind_cases hu with ⟨e, -, he⟩ | ⟨swVersion, hsw, hu⟩
    · exact hfails ⟨e, he⟩
    rcases run_fromResult_bind_cases hu with ⟨e, -, he⟩ | ⟨response, hresponse, hu⟩
    · exact hfails ⟨e, he⟩
    -- the answer is packed; only the write can still go wrong
    have hhead : (kind :: rest : Bytes).head? = some 5 := congrArg some (not_not.mp hkind)
    rcases run_bind_cases hu with ⟨e, he, rfl⟩ | ⟨t₁, _, t₂, h₁, h₂, rfl⟩
    · rcases run_sendFrame_cases he with ⟨e', ht, -⟩ | ht
      · exact hfails ⟨e, ht, rfl⟩
      · rw [ht]
        exact .answered hhead hproto hsw hresponse
    · rcases run_sendFrame_cases h₁ with ⟨e, -, he⟩ | ht
      · cases he
      · obtain ⟨rfl, rfl⟩ := run_ret_iff.mp h₂
        rw [ht]
        exact .answered hhead hproto hsw hresponse

end Gear360
