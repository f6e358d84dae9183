import Courier.Workers.Dispatch

/-!
# What delivers for a poll cycle

A dispatcher fails as a whole or gives one response for each request, whatever the receivers do.
-/

namespace Courier

/-- What delivers requests: it gives one response for each of them, or it fails. -/
structure Polling.Dispatcher (τ : Type) where
  run : List DeliveryRequest → Action DeliveryError τ (List Response)
  complete {requests : List DeliveryRequest} {responses : List Response} {t t' : τ} :
    (run requests).runOn t = (.ok responses, t') → responses.length = requests.length

namespace Workers

theorem dispatchAll_ok {t t' : Timetable} {rs kept : List Response}
    (run : t.dispatchAll rs = (.ok kept, t')) : kept = rs := by
  unfold Timetable.dispatchAll at run
  split at run
  · next none =>
    cases run
    exact (List.isEmpty_iff.mp none).symm
  · split at run
    · cases run
    · cases run
      rfl

theorem length_mapM_run {σ α β : Type} (f : α → StateM σ β) (l : List α) (s : σ) :
    ((l.mapM f).run s).1.length = l.length := by
  induction l generalizing s with
  | nil => rfl
  | cons a rest ih =>
    rw [List.mapM_cons]
    exact congrArg Nat.succ (ih _)

/-- The workers of a pool deliver requests over a network. -/
def dispatcher (c : Client) : Polling.Dispatcher (Timetable × Network) where
  run := dispatch c
  complete := by
    rintro requests responses ⟨t, n⟩ t' run
    unfold dispatch at run
    rw [Action.runOn_make] at run
    dsimp only at run
    split at run
    · cases run
    · have kept : responses = ((requests.mapM (deliver c)).run n).1 :=
        dispatchAll_ok (Prod.ext (Prod.mk.inj run).1 rfl)
      rw [kept, length_mapM_run]

end Workers

end Courier
