-- The queue of a proxy is left in order by all that the proxy calls on it.
import SessionGuard.AuthRuns
import SessionGuard.QueueProgress

open machine

namespace session_guard.auth_runs

open auth_msg_queue auth_proxy queue_liveness

/-- The effects of a handler are calls of functions of the queue. -/
theorem mainOps_calls {ν : Type} (note : ν) (effects : List Effect) :
    ∃ calls : List (List (MainOp ν)),
      mainOps note effects = calls.flatten ∧ ∀ c ∈ calls, IsCall c := by
  induction effects with
  | nil => exact ⟨[], rfl, by simp⟩
  | cons e effects ih =>
    obtain ⟨calls, hops, hcalls⟩ := ih
    have hone : ∀ c, IsCall c → mainOps note (e :: effects) = c ++ mainOps note effects →
        ∃ calls : List (List (MainOp ν)),
          mainOps note (e :: effects) = calls.flatten ∧ ∀ c ∈ calls, IsCall c := by
      intro c hc heq
      refine ⟨c :: calls, by rw [heq, hops]; rfl, ?_⟩
      intro x hx
      rcases List.mem_cons.mp hx with rfl | hx
      · exact hc
      · exact hcalls x hx
    cases e with
    | append msg => exact hone _ (Or.inl ⟨_, rfl⟩) rfl
    | startDispatcher => exact hone _ (Or.inr (Or.inl rfl)) rfl
    | stopDispatcher => exact hone _ (Or.inr (Or.inr rfl)) rfl
    | _ => exact ⟨calls, hops, hcalls⟩

variable {env : Env}

theorem Orderly.after {s : Sys (Dispatch Note)} (h : Orderly s.queue) (note : Note)
    (r : AuthProxy × List Effect) : Orderly (s.after Dispatch.call note r).queue := by
  obtain ⟨calls, hops, hcalls⟩ := mainOps_calls note r.2
  have horderly := h.call hcalls
  rwa [← hops] at horderly

/-- Every step over the threads keeps the queue in order. -/
theorem threadStep_orderly {s t : Sys (Dispatch Note)} {e : ThreadEvent} {o : List Effect}
    (hs : Orderly s.queue) (h : threadStep env s e = some (t, o)) : Orderly t.queue := by
  obtain ⟨x, -, -, h⟩ | ⟨x, d, -, hd, h⟩ | ⟨thread, d, -, hd, rfl, -⟩ := threadStep_cases env h
  · obtain ⟨-, -, rfl⟩ := handle_eq_some env h
    exact Orderly.after hs _ _
  · obtain ⟨-, -, rfl⟩ := receive_eq_some h
    exact Orderly.after (s := { s with queue := d }) (hs.deliver hd) _ _
  · exact hs.step hd

end session_guard.auth_runs
