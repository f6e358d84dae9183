import Courier.Proofs.Sending.Scheduling
import Courier.Sending.Journal

/-!
# What follows a batch

A store may answer whatever it likes, also with attempts that belong to no response.
`follow_ups_are_all_or_none` says which calls are made to it then: retries are entered and
subscriptions disabled only after every attempt of the batch has its decision.
-/

namespace Courier.Pipeline

variable {σ : Type} {store : SendStore σ} {responses : List Response} {asOf : Date} {s s' : σ}
  {attempts : List Attempt} {subscriptions : List SubscriptionId} {calls : List StoreCall}
  {result : Except DeliveryError FollowUp}

/-- The subscriptions of the exhausted attempts, in order and each of them once. -/
structure GivesUp (attempts : List Attempt) (subscriptions : List SubscriptionId) : Prop where
  increasing : subscriptions.Pairwise (· < ·)
  distinct : subscriptions.Nodup
  mem_iff : ∀ x, x ∈ subscriptions ↔
    ∃ a ∈ attempts, Backoff.decide a = .ok .exhausted ∧ a.subscriptionId = x

/-- The responses to a batch are followed up by some calls to the store, with a result and a state
that is left. The first failure is the last thing that happens. -/
inductive FollowsUp (store : SendStore σ) (responses : List Response) (asOf : Date) (s : σ) :
    List StoreCall → Except DeliveryError FollowUp → σ → Prop where
  | unrecorded {e : StorageError} {s₁ : σ}
      (recording : (store.recordAttempts responses asOf).runOn s = (.error e, s₁)) :
      FollowsUp store responses asOf s [.recordAttempts responses asOf] (.error (.storage e)) s₁
  | undecided {before after : List Attempt} {a : Attempt} {e : DeliveryError} {s₁ : σ}
      (recording : (store.recordAttempts responses asOf).runOn s = (.ok (before ++ a :: after), s₁))
      (decided : ∀ b ∈ before, ∃ d, Backoff.decide b = .ok d)
      (fails : Backoff.decide a = .error e) :
      FollowsUp store responses asOf s [.recordAttempts responses asOf] (.error e) s₁
  | unscheduled {attempts : List Attempt} {e : StorageError} {s₁ s₂ : σ}
      (recording : (store.recordAttempts responses asOf).runOn s = (.ok attempts, s₁))
      (decided : ∀ a ∈ attempts, ∃ d, Backoff.decide a = .ok d)
      (entering : (store.enqueueRetries (attempts.filterMap Attempt.retry?)).runOn s₁ =
        (.error e, s₂)) :
      FollowsUp store responses asOf s
        [.recordAttempts responses asOf, .enqueueRetries (attempts.filterMap Attempt.retry?)]
        (.error (.storage e)) s₂
  | undisabled {attempts : List Attempt} {subscriptions : List SubscriptionId} {e : StorageError}
      {s₁ s₂ s₃ : σ}
      (recording : (store.recordAttempts responses asOf).runOn s = (.ok attempts, s₁))
      (decided : ∀ a ∈ attempts, ∃ d, Backoff.decide a = .ok d)
      (entering : (store.enqueueRetries (attempts.filterMap Attempt.retry?)).runOn s₁ =
        (.ok (), s₂))
      (givesUp : GivesUp attempts subscriptions)
      (disabling : (store.disableSubscriptions subscriptions).runOn s₂ = (.error e, s₃)) :
      FollowsUp store responses asOf s
        [.recordAttempts responses asOf, .enqueueRetries (attempts.filterMap Attempt.retry?),
          .disableSubscriptions subscriptions none]
        (.error (.storage e)) s₃
  | done {attempts : List Attempt} {subscriptions : List SubscriptionId} {changed : Nat}
      {s₁ s₂ s₃ : σ}
      (recording : (store.recordAttempts responses asOf).runOn s = (.ok attempts, s₁))
      (decided : ∀ a ∈ attempts, ∃ d, Backoff.decide a = .ok d)
      (entering : (store.enqueueRetries (attempts.filterMap Attempt.retry?)).runOn s₁ =
        (.ok (), s₂))
      (givesUp : GivesUp attempts subscriptions)
      (disabling : (store.disableSubscriptions subscriptions).runOn s₂ = (.ok changed, s₃)) :
      FollowsUp store responses asOf s
        [.recordAttempts responses asOf, .enqueueRetries (attempts.filterMap Attempt.retry?),
          .disableSubscriptions subscriptions (some changed)]
        (.ok {
          recorded := attempts.length
          delivered := attempts.countP (·.decision? = some .delivered)
          retried := (attempts.filterMap Attempt.retry?).length
          disabled := subscriptions.length }) s₃

theorem givesUp_exhausted (attempts : List Attempt) :
    GivesUp attempts (Schedule.ofAttempts attempts).exhausted.toList where
  increasing := (Schedule.ofAttempts attempts).exhausted.increasing
  distinct := OrderedSet.nodup_toList _
  mem_iff _ := Schedule.mem_exhausted

theorem GivesUp.eq_exhausted (givesUp : GivesUp attempts subscriptions) :
    subscriptions = (Schedule.ofAttempts attempts).exhausted.toList := by
  have same : (⟨subscriptions, givesUp.increasing⟩ : OrderedSet SubscriptionId) =
      (Schedule.ofAttempts attempts).exhausted := by
    refine OrderedSet.eq_of_mem_iff fun x => ?_
    rw [Schedule.mem_exhausted]
    exact givesUp.mem_iff x
  rw [← same]

/-- What applying responses comes to, on whatever store: one call after the other, up to the first
failure. -/
theorem apply_run_eq (store : SendStore σ) (responses : List Response) (asOf : Date) (s : σ) :
    (apply store responses asOf).runOn s =
      match (store.recordAttempts responses asOf).runOn s with
      | (.error e, s₁) => (.error (.storage e), s₁)
      | (.ok attempts, s₁) =>
        match schedule ⟨0, [], .empty⟩ attempts with
        | .error e => (.error e, s₁)
        | .ok u =>
          match (store.enqueueRetries u.retries).runOn s₁ with
          | (.error e, s₂) => (.error (.storage e), s₂)
          | (.ok _, s₂) =>
            match (store.disableSubscriptions u.exhausted.toList).runOn s₂ with
            | (.error e, s₃) => (.error (.storage e), s₃)
            | (.ok _, s₃) =>
              (.ok ⟨attempts.length, u.delivered, u.retries.length, u.exhausted.size⟩, s₃) := by
  unfold apply
  rw [Action.runOn_bind, Action.runOn_mapError]
  obtain ⟨e | attempts, s₁⟩ := (store.recordAttempts responses asOf).runOn s
  · rfl
  dsimp only [Except.mapError]
  rw [Action.runOn_bind, Action.runOn_lift]
  cases schedule ⟨0, [], .empty⟩ attempts with
  | error e => rfl
  | ok u =>
    dsimp only
    rw [Action.runOn_bind, Action.runOn_mapError]
    obtain ⟨e | ⟨⟩, s₂⟩ := (store.enqueueRetries u.retries).runOn s₁
    · rfl
    dsimp only [Except.mapError]
    rw [Action.runOn_bind, Action.runOn_mapError]
    obtain ⟨e | changed, s₃⟩ := (store.disableSubscriptions u.exhausted.toList).runOn s₂
    · rfl
    · rfl

theorem FollowsUp.run (follows : FollowsUp store responses asOf s calls result s') :
    (apply store responses asOf).runOn s = (result, s') := by
  rw [apply_run_eq]
  cases follows with
  | unrecorded recording => rw [recording]
  | undecided recording decided fails =>
    rw [recording]
    dsimp only
    rw [schedule_of_undecided decided fails]
  | unscheduled recording decided entering =>
    rw [recording]
    dsimp only
    rw [schedule_of_decided decided]
    dsimp only
    rw [Schedule.retries_ofAttempts, entering]
  | undisabled recording decided entering givesUp disabling =>
    rw [givesUp.eq_exhausted] at disabling
    rw [recording]
    dsimp only
    rw [schedule_of_decided decided]
    dsimp only
    rw [Schedule.retries_ofAttempts, entering]
    dsimp only
    rw [disabling]
  | done recording decided entering givesUp disabling =>
    rw [givesUp.eq_exhausted] at disabling ⊢
    rw [recording]
    dsimp only
    rw [schedule_of_decided decided]
    dsimp only
    rw [Schedule.retries_ofAttempts, entering]
    dsimp only
    rw [disabling]
    rfl

/-! ### The journal of a store -/

section Journal

variable {r : Except StorageError (List Attempt)} {entered : Except StorageError Unit}
  {changed : Except StorageError Nat} {entries : List RetryEntry} {earlier : List StoreCall}

theorem journal_recording (recording : (store.recordAttempts responses asOf).runOn s = (r, s')) :
    (store.withJournal.recordAttempts responses asOf).runOn (s, earlier) =
      (r, (s', earlier ++ [.recordAttempts responses asOf])) := by
  show (((store.recordAttempts responses asOf).runOn s).1,
    (((store.recordAttempts responses asOf).runOn s).2, _)) = _
  rw [recording]

theorem journal_entering (entering : (store.enqueueRetries entries).runOn s = (entered, s')) :
    (store.withJournal.enqueueRetries entries).runOn (s, earlier) =
      (entered, (s', earlier ++ [.enqueueRetries entries])) := by
  show (((store.enqueueRetries entries).runOn s).1,
    (((store.enqueueRetries entries).runOn s).2, _)) = _
  rw [entering]

theorem journal_disabling
    (disabling : (store.disableSubscriptions subscriptions).runOn s = (changed, s')) :
    (store.withJournal.disableSubscriptions subscriptions).runOn (s, earlier) =
      (changed, (s', earlier ++ [.disableSubscriptions subscriptions changed.toOption])) := by
  show (((store.disableSubscriptions subscriptions).runOn s).1,
    (((store.disableSubscriptions subscriptions).runOn s).2, earlier ++
      [.disableSubscriptions subscriptions
        ((store.disableSubscriptions subscriptions).runOn s).1.toOption])) = _
  rw [disabling]

/-- A store with a journal is followed up like the store, with just these calls in the journal. -/
theorem FollowsUp.withJournal (follows : FollowsUp store responses asOf s calls result s')
    (earlier : List StoreCall) :
    FollowsUp store.withJournal responses asOf (s, earlier) calls result (s', earlier ++ calls) := by
  cases follows with
  | unrecorded recording => exact .unrecorded (journal_recording recording)
  | undecided recording decided fails =>
    exact .undecided (journal_recording recording) decided fails
  | unscheduled recording decided entering =>
    rw [List.append_cons]
    exact .unscheduled (journal_recording recording) decided (journal_entering entering)
  | undisabled recording decided entering givesUp disabling =>
    rw [List.append_cons, List.append_cons]
    exact .undisabled (journal_recording recording) decided (journal_entering entering) givesUp
      (journal_disabling disabling)
  | done recording decided entering givesUp disabling =>
    rw [List.append_cons, List.append_cons]
    exact .done (journal_recording recording) decided (journal_entering entering) givesUp
      (journal_disabling disabling)

end Journal

theorem exists_followsUp (store : SendStore σ) (responses : List Response) (asOf : Date) (s : σ) :
    ∃ calls result s', FollowsUp store responses asOf s calls result s' := by
  cases recording : (store.recordAttempts responses asOf).runOn s with | mk r s₁ =>
  cases r with
  | error e => exact ⟨_, _, _, .unrecorded recording⟩
  | ok attempts =>
    obtain decided | ⟨before, a, after, e, rfl, decided, fails⟩ :=
      decided_or_first_undecided attempts
    · cases entering : (store.enqueueRetries (attempts.filterMap Attempt.retry?)).runOn s₁ with
      | mk r s₂ =>
      cases r with
      | error e => exact ⟨_, _, _, .unscheduled recording decided entering⟩
      | ok =>
        have givesUp := givesUp_exhausted attempts
        cases disabling : (store.disableSubscriptions
            (Schedule.ofAttempts attempts).exhausted.toList).runOn s₂ with
        | mk r s₃ =>
        cases r with
        | error e => exact ⟨_, _, _, .undisabled recording decided entering givesUp disabling⟩
        | ok changed => exact ⟨_, _, _, .done recording decided entering givesUp disabling⟩
    · exact ⟨_, _, _, .undecided recording decided fails⟩

theorem FollowsUp.calls_of_undecided (follows : FollowsUp store responses asOf s calls result s')
    (recorded : ((store.recordAttempts responses asOf).runOn s).1 = .ok attempts) {a : Attempt}
    (member : a ∈ attempts) {e : DeliveryError} (fails : Backoff.decide a = .error e) :
    calls = [.recordAttempts responses asOf] := by
  have undecided : ¬ ∀ b ∈ attempts, ∃ d, Backoff.decide b = .ok d := by
    intro decided
    obtain ⟨d, decision⟩ := decided a member
    rw [fails] at decision
    cases decision
  cases follows with
  | unrecorded | undecided => rfl
  | unscheduled recording decided | undisabled recording decided | done recording decided =>
    rw [recording] at recorded
    cases recorded
    exact absurd decided undecided

/-- Whatever a store answers, the responses are recorded first. Only if every attempt that comes back
has its decision the retries are entered, all in one call and in the order of the attempts, and then
the subscriptions of the exhausted attempts are disabled, all in one call; an attempt without a
decision, wherever it stands, prevents both. The first failure is the result. -/
theorem follow_ups_are_all_or_none (store : SendStore σ) (responses : List Response) (asOf : Date)
    (s : σ) :
    ∃ calls result s', FollowsUp store responses asOf s calls result s' ∧
      (apply store responses asOf).runOn s = (result, s') ∧
      (∀ earlier, (apply store.withJournal responses asOf).runOn (s, earlier) =
        (result, (s', earlier ++ calls))) ∧
      ∀ attempts, ((store.recordAttempts responses asOf).runOn s).1 = .ok attempts →
        ∀ a ∈ attempts, ∀ e, Backoff.decide a = .error e →
          calls = [.recordAttempts responses asOf] := by
  obtain ⟨calls, result, s', follows⟩ := exists_followsUp store responses asOf s
  refine ⟨calls, result, s', follows, follows.run, fun earlier => ?_, ?_⟩
  · exact (follows.withJournal earlier).run
  · intro attempts recorded a member e fails
    exact follows.calls_of_undecided recorded member fails

end Courier.Pipeline
