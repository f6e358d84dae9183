import Courier.Proofs.Admission.Checks

/-!
# Admission is exact and atomic

`admission_exact` says when an event is admitted, what is then sent to the database, and how an
admission ends that fails.
-/

namespace Courier

def Sent.isInsert : Sent → Bool
  | .statement sql _ => "INSERT".toList.isPrefixOf sql.toList
  | .control _ => false

namespace Admission

def eventId : Row → Except StorageError EventId := Row.first Row.id?

section Failing

variable (event : NewEvent) (today : Date) (s : Session)

/-- Why an admission fails: its error, and what it has sent before it is given up. -/
inductive Fails : StorageError → List Sent → Prop where
  | unreachable (away : s.isReachable = false) : Fails (.ofWrite .connectionLost) []
  | unbegun {f : Fault} (reachable : s.isReachable = true) (fault : s.fault? .begin = some f) :
      Fails f.error.ofWrite [.control .begin]
  | unlisted {e : StorageError} (begins : s.Begins)
      (failure : (s.reply 0).all Row.version = .error e) :
      Fails e [.control .begin, listing event]
  | mismatched {versions : List Version} {lacking surplus : OrderedSet String} (begins : s.Begins)
      (listed : (s.reply 0).all Row.version = .ok versions) (differ : ¬ Matches event versions)
      (mem_lacking : ∀ name, name ∈ lacking ↔
        (∃ id, Versions.name? versions id = some name) ∧ event.versionedPayload.get? name = none)
      (mem_surplus : ∀ name, name ∈ surplus ↔
        (∃ payload, event.versionedPayload.get? name = some payload) ∧
          ∀ id, Versions.name? versions id ≠ some name) :
      Fails (versionMismatch lacking surplus) [.control .begin, listing event]
  | unnamed {versions : List Version} {e : StorageError} (declared : Declared event s versions)
      (failure : (s.reply 1).first (Topics.unknown event.topicName) Row.topic = .error e) :
      Fails e [.control .begin, listing event, naming event]
  | unaddressed {versions : List Version} {topic : Topic} {e : StorageError}
      (named : Named event s versions topic)
      (failure : (s.reply 2).first (Consumers.unknown event.consumerId) Row.consumer = .error e) :
      Fails e [.control .begin, listing event, naming event, addressing event]
  | foreign {versions : List Version} {topic : Topic} {consumer : Consumer}
      (named : Named event s versions topic) (found : (s.reply 2).Shows Row.consumer consumer)
      (other : consumer.tenantId ≠ event.tenantId) :
      Fails (.notFound ("consumer " ++ event.consumerId.text))
        [.control .begin, listing event, naming event, addressing event]
  | unresolved {versions : List Version} {topic : Topic} {consumer : Consumer} {e : StorageError}
      (addressed : Addressed event s versions topic consumer)
      (failure : (s.reply 3).first (Subscriptions.unresolved consumer.id topic.id)
        Row.subscription = .error e) :
      Fails e (lookups event topic consumer)
  | unversioned {versions : List Version} {topic : Topic} {consumer : Consumer}
      {subscription : Subscription}
      (resolved : Resolved event s versions topic consumer subscription)
      (unknown : Versions.name? versions consumer.versionId = none) :
      Fails (noPayload consumer) (lookups event topic consumer)
  | uncreated {f : Findings} {e : StorageError} (admissible : Admissible event s f)
      (failure : (s.reply 4).first .missingRow eventId = .error e) :
      Fails e.ofWrite (lookups event f.topic f.consumer ++ [creating event today f])
  | unentered {f : Findings} {id : EventId} {e : StorageError}
      (admissible : Admissible event s f) (created : (s.reply 4).Shows eventId id)
      (failure : (s.reply 5).first .missingRow eventId = .error e) :
      Fails e.ofWrite (lookups event f.topic f.consumer ++ [creating event today f, entering id])
  | uncommitted {f : Findings} {id entry : EventId} {fault : Fault}
      (admissible : Admissible event s f) (created : (s.reply 4).Shows eventId id)
      (entered : (s.reply 5).Shows eventId entry) (uncommitted : s.fault? .commit = some fault) :
      Fails fault.error.ofWrite
        (lookups event f.topic f.consumer ++
          [creating event today f, entering id, .control .commit])

end Failing

variable {event : NewEvent} {today : Date} {s t : Session} {f : Findings} {id entry : EventId}
  {e : StorageError} {sent : List Sent}

/-! ### Drafting -/

theorem Admissible.draft_run (admissible : Admissible event s f) :
    ∃ t, s.Stands 4 (lookups event f.topic f.consumer) t ∧
      (draft event).runOn s.begun = (.ok ⟨event.tenantId, f.consumer.id, f.topic.id,
        f.consumer.versionId, f.subscription.id, event.headers, f.payload⟩, t) := by
  obtain ⟨t, stands, run⟩ := admissible.toResolved.run
  refine ⟨t, stands, run.trans ?_⟩
  have payload : payload? (Versions.names f.versions) event f.consumer = some f.payload := by
    rw [payload?_eq, admissible.version_known, Option.bind_some, admissible.brought]
  unfold afterResolving
  rw [payload]
  rfl

theorem draft_of_mismatch {versions : List Version} {lacking surplus : OrderedSet String}
    (listed : (s.reply 0).all Row.version = .ok versions) (differ : ¬ Matches event versions)
    (mem_lacking : ∀ name, name ∈ lacking ↔
      (∃ id, Versions.name? versions id = some name) ∧ event.versionedPayload.get? name = none)
    (mem_surplus : ∀ name, name ∈ surplus ↔
      (∃ payload, event.versionedPayload.get? name = some payload) ∧
        ∀ id, Versions.name? versions id ≠ some name) :
    (draft event).runOn s.begun =
      (.error (versionMismatch lacking surplus), s.begun.asked (listing event)) := by
  have lacking_eq : lacking = (declaredNames versions).diff event.versionedPayload.keySet := by
    refine OrderedSet.eq_of_mem_iff fun name => ?_
    rw [mem_lacking, OrderedSet.mem_diff, mem_declaredNames, Dict.mem_keySet]
    simp [Option.eq_none_iff_forall_ne_some]
  have surplus_eq : surplus = event.versionedPayload.keySet.diff (declaredNames versions) := by
    refine OrderedSet.eq_of_mem_iff fun name => ?_
    rw [mem_surplus, OrderedSet.mem_diff, mem_declaredNames, Dict.mem_keySet, not_exists]
  rw [draft_eq]
  refine (Action.runOn_bind_of_ok (s.begun_stands.all.trans (by rw [listed]))).trans ?_
  unfold afterListing
  rw [if_neg (mt matches_iff.mpr differ), lacking_eq, surplus_eq]
  rfl

/-! ### A transaction -/

def settle (work : Query EventId) : Query EventId := do
  let id ← work.orAbandon
  Query.commit.onWrite
  return id

theorem accept_of_begins (begins : s.Begins) :
    (accept event today).runOn s = (settle (store event today)).runOn s.begun := by
  unfold accept Query.beginTransaction Query.onWrite
  have begun := Query.beginTransaction_of_begins begins
  exact Action.runOn_bind_of_ok (Action.runOn_mapError_of_ok begun)

theorem accept_of_unbegun (unbegun : s.beginAnswer = (.error e, t)) :
    (accept event today).runOn s = (.error e.ofWrite, t) :=
  Action.runOn_bind_of_error (Action.runOn_mapError_of_error unbegun)

theorem settle_of_error {work : Query EventId} (run : work.runOn s = (.error e, t)) :
    (settle work).runOn s = (.error e, t.abandon) :=
  Action.runOn_bind_of_error (Query.orAbandon_of_error run)

theorem settle_of_ok {start : Session} {n : Nat} {work : Query EventId}
    (run : work.runOn s = (.ok id, t)) (stands : start.Stands n sent t)
    (commits : start.Commits) :
    (settle work).runOn s = (.ok id, t.record (.control .commit)) := by
  unfold settle Query.onWrite
  rw [Action.runOn_bind_of_ok (Query.orAbandon_of_ok run)]
  exact Action.runOn_bind_of_ok (Action.runOn_mapError_of_ok (stands.commit commits))

theorem settle_of_fault {start : Session} {n : Nat} {work : Query EventId} {fault : Fault}
    (run : work.runOn s = (.ok id, t)) (stands : start.Stands n sent t)
    (uncommitted : start.fault? .commit = some fault) :
    (settle work).runOn s =
      (.error fault.error.ofWrite, ((t.record (.control .commit)).faulted fault).abandon) := by
  unfold settle Query.onWrite
  rw [Action.runOn_bind_of_ok (Query.orAbandon_of_ok run)]
  exact Action.runOn_bind_of_error (Action.runOn_mapError_of_error (stands.commit_fault uncommitted))

/-! ### How it ends -/

theorem store_of_error (run : (draft event).runOn s = (.error e, t)) :
    (store event today).runOn s = (.error e, t) :=
  Action.runOn_bind_of_error run

/-- The rest of the work, once the event is drafted. -/
def afterDraft (today : Date) (d : EventDraft) : Query EventId := do
  let id ← EventLog.create d today
  let _ ← (MainQueue.enqueue id).onWrite
  return id

theorem Admissible.store_run (admissible : Admissible event s f) :
    ∃ t, s.Stands 4 (lookups event f.topic f.consumer) t ∧
      (store event today).runOn s.begun = (afterDraft today ⟨event.tenantId, f.consumer.id,
        f.topic.id, f.consumer.versionId, f.subscription.id, event.headers,
        f.payload⟩).runOn t := by
  obtain ⟨t, stands, run⟩ := admissible.draft_run
  exact ⟨t, stands, Action.runOn_bind_of_ok run⟩

theorem uncreated_run (admissible : Admissible event s f)
    (failure : (s.reply 4).first .missingRow eventId = .error e) :
    ∃ u, (store event today).runOn s.begun = (.error e.ofWrite, u) ∧
      u.sent = s.sent ++ (lookups event f.topic f.consumer ++ [creating event today f]) := by
  obtain ⟨t, stands, run⟩ := admissible.store_run
  refine ⟨_, run.trans ?_, stands.asked_sent (creating event today f)⟩
  refine Action.runOn_bind_of_error (Action.runOn_mapError_of_error (e := e) ?_)
  exact stands.first.trans (by rw [← failure]; rfl)

theorem created_run (today : Date) (admissible : Admissible event s f)
    (created : (s.reply 4).Shows eventId id) :
    ∃ t, s.Stands 5 (lookups event f.topic f.consumer ++ [creating event today f]) t ∧
      (store event today).runOn s.begun =
        ((MainQueue.enqueue id).onWrite >>= fun _ => pure id).runOn t := by
  obtain ⟨t, stands, run⟩ := admissible.store_run
  have found := (Reply.first_ok .missingRow).mpr created
  refine ⟨_, stands.asked (Reply.answers_of_first found) (creating event today f), run.trans ?_⟩
  refine Action.runOn_bind_of_ok (Action.runOn_mapError_of_ok (v := id) ?_)
  exact stands.first.trans (by rw [← found]; rfl)

theorem unentered_run (admissible : Admissible event s f)
    (created : (s.reply 4).Shows eventId id)
    (failure : (s.reply 5).first .missingRow eventId = .error e) :
    ∃ u, (store event today).runOn s.begun = (.error e.ofWrite, u) ∧
      u.sent = s.sent ++
        (lookups event f.topic f.consumer ++ [creating event today f, entering id]) := by
  obtain ⟨t, stands, run⟩ := created_run today admissible created
  refine ⟨_, run.trans ?_, (stands.asked_sent (entering id)).trans (by rw [List.append_assoc]; rfl)⟩
  refine Action.runOn_bind_of_error (Action.runOn_mapError_of_error (e := e) ?_)
  exact stands.first.trans (by rw [← failure]; rfl)

theorem entered_run (today : Date) (admissible : Admissible event s f)
    (created : (s.reply 4).Shows eventId id) (entered : (s.reply 5).Shows eventId entry) :
    ∃ t, s.Stands 6
        (lookups event f.topic f.consumer ++ [creating event today f, entering id]) t ∧
      (store event today).runOn s.begun = (.ok id, t) := by
  obtain ⟨t, stands, run⟩ := created_run today admissible created
  have found := (Reply.first_ok .missingRow).mpr entered
  have after := stands.asked (Reply.answers_of_first found) (entering id)
  rw [List.append_assoc] at after
  refine ⟨_, after, run.trans ?_⟩
  refine Action.runOn_bind_of_ok (Action.runOn_mapError_of_ok (v := entry) ?_)
  exact stands.first.trans (by rw [← found]; rfl)

theorem undrafted_run {n : Nat} {x : Sent} (stands : s.Stands n sent t)
    (run : (draft event).runOn s.begun = (.error e, t.asked x)) :
    ∃ u, (store event today).runOn s.begun = (.error e, u) ∧ u.sent = s.sent ++ (sent ++ [x]) :=
  ⟨_, store_of_error run, stands.asked_sent x⟩

/-- The session after a failure: what was sent, and a rollback if the transaction had begun. -/
def Closed (s : Session) (sent : List Sent) (t : Session) : Prop :=
  ∃ u : Session, u.sent = s.sent ++ sent ∧ (s.Begins → t = u.abandon) ∧ (¬ s.Begins → t = u)

theorem gives_up (begins : s.Begins)
    (run : ∃ u, (store event today).runOn s.begun = (.error e, u) ∧ u.sent = s.sent ++ sent) :
    ∃ t, (accept event today).runOn s = (.error e, t) ∧ Closed s sent t := by
  obtain ⟨u, run, sent_eq⟩ := run
  refine ⟨u.abandon, (accept_of_begins begins).trans (settle_of_error run), u, sent_eq, ?_, ?_⟩
  · exact fun _ => rfl
  · exact fun unbegun => absurd begins unbegun

theorem never_begins (begin : s.beginAnswer = (.error e, t))
    (unbegun : ¬ s.Begins) (sent_eq : t.sent = s.sent ++ sent) :
    ∃ t, (accept event today).runOn s = (.error e.ofWrite, t) ∧ Closed s sent t := by
  exact ⟨t, accept_of_unbegun begin, t, sent_eq, fun begins => absurd begins unbegun, fun _ => rfl⟩

theorem Fails.run (fails : Fails event today s e sent) :
    ∃ t, (accept event today).runOn s = (.error e, t) ∧ Closed s sent t := by
  cases fails with
  | unreachable away =>
    refine never_begins (Session.beginAnswer_of_unreachable away) ?_
      (List.append_nil _).symm
    exact fun begins => absurd begins.1 (by simp [away])
  | unbegun reachable fault =>
    refine never_begins (Session.beginAnswer_of_fault reachable fault) ?_ rfl
    exact fun begins => absurd begins.2 (by simp [fault])
  | unlisted begins failure =>
    refine gives_up begins (undrafted_run s.begun_stands ?_)
    exact Action.runOn_bind_of_error (s.begun_stands.all.trans (by rw [failure]; rfl))
  | mismatched begins listed differ mem_lacking mem_surplus =>
    exact gives_up begins (undrafted_run s.begun_stands
      (draft_of_mismatch listed differ mem_lacking mem_surplus))
  | unnamed declared failure =>
    obtain ⟨t, stands, run⟩ := declared.run
    refine gives_up declared.begins (undrafted_run stands (run.trans ?_))
    exact Action.runOn_bind_of_error (stands.first.trans (by rw [failure]; rfl))
  | unaddressed named failure =>
    obtain ⟨t, stands, run⟩ := named.run
    refine gives_up named.begins (undrafted_run stands (run.trans ?_))
    exact Action.runOn_bind_of_error (stands.first.trans (by rw [failure]; rfl))
  | @foreign _ _ consumer named found other =>
    obtain ⟨t, stands, run⟩ := named.run
    exact gives_up named.begins (undrafted_run stands (run.trans (foreign_run stands found other)))
  | unresolved addressed failure =>
    obtain ⟨t, stands, run⟩ := addressed.run
    refine gives_up addressed.begins (undrafted_run stands (run.trans ?_))
    exact Action.runOn_bind_of_error (stands.first.trans (by rw [failure]; rfl))
  | @unversioned _ _ consumer _ resolved unknown =>
    obtain ⟨t, stands, run⟩ := resolved.run
    refine gives_up resolved.begins ⟨t, store_of_error (run.trans ?_), stands.sent_eq⟩
    unfold afterResolving
    rw [payload?_eq, unknown]
    rfl
  | uncreated admissible failure =>
    exact gives_up admissible.begins (uncreated_run admissible failure)
  | unentered admissible created failure =>
    exact gives_up admissible.begins (unentered_run admissible created failure)
  | @uncommitted _ _ _ fault admissible created entered uncommitted =>
    obtain ⟨t, stands, run⟩ := entered_run today admissible created entered
    refine ⟨_, (accept_of_begins admissible.begins).trans (settle_of_fault run stands uncommitted),
      (t.record (.control .commit)).faulted fault, ?_, fun _ => rfl,
      fun unbegun => absurd admissible.begins unbegun⟩
    exact (stands.recorded_sent .commit).trans (by rw [List.append_assoc]; rfl)

/-! ### Every admission ends in one of these ways -/

theorem error_or_ok {ε α : Type} (r : Except ε α) : (∃ e, r = .error e) ∨ ∃ a, r = .ok a := by
  cases r with
  | error e => exact .inl ⟨e, rfl⟩
  | ok a => exact .inr ⟨a, rfl⟩

structure Succeeds (event : NewEvent) (s : Session) (f : Findings) (id : EventId) : Prop where
  admissible : Admissible event s f
  created : (s.reply 4).Shows eventId id
  entered : ∃ entry, (s.reply 5).Shows eventId entry
  commits : s.Commits

theorem Resolved.fails_or_succeeds {versions : List Version} {topic : Topic} {consumer : Consumer}
    {subscription : Subscription} (today : Date)
    (resolved : Resolved event s versions topic consumer subscription) :
    (∃ e sent, Fails event today s e sent) ∨ ∃ f id, Succeeds event s f id := by
  rcases known : Versions.name? versions consumer.versionId with _ | version
  · exact .inl ⟨_, _, .unversioned resolved known⟩
  obtain ⟨payload, admissible⟩ := resolved.admissible known
  rcases error_or_ok ((s.reply 4).first .missingRow eventId) with ⟨e, failure⟩ | ⟨id, created⟩
  · exact .inl ⟨_, _, .uncreated admissible failure⟩
  have created := (Reply.first_ok _).mp created
  rcases error_or_ok ((s.reply 5).first .missingRow eventId) with ⟨e, failure⟩ | ⟨entry, entered⟩
  · exact .inl ⟨_, _, .unentered admissible created failure⟩
  have entered := (Reply.first_ok _).mp entered
  rcases commit : s.fault? .commit with _ | fault
  · exact .inr ⟨_, id, admissible, created, ⟨entry, entered⟩, commit⟩
  · exact .inl ⟨_, _, .uncommitted admissible created entered commit⟩

theorem exists_mismatch {versions : List Version} (today : Date) (begins : s.Begins)
    (listed : (s.reply 0).all Row.version = .ok versions) (differ : ¬ Matches event versions) :
    ∃ e sent, Fails event today s e sent := by
  have lacking (name : String) :
      name ∈ (declaredNames versions).diff event.versionedPayload.keySet ↔
        (∃ id, Versions.name? versions id = some name) ∧
          event.versionedPayload.get? name = none := by
    rw [OrderedSet.mem_diff, mem_declaredNames, Dict.mem_keySet]
    simp [Option.eq_none_iff_forall_ne_some]
  have surplus (name : String) :
      name ∈ event.versionedPayload.keySet.diff (declaredNames versions) ↔
        (∃ payload, event.versionedPayload.get? name = some payload) ∧
          ∀ id, Versions.name? versions id ≠ some name := by
    rw [OrderedSet.mem_diff, mem_declaredNames, Dict.mem_keySet, not_exists]
  exact ⟨_, _, .mismatched begins listed differ lacking surplus⟩

theorem fails_or_succeeds (event : NewEvent) (today : Date) (s : Session) :
    (∃ e sent, Fails event today s e sent) ∨ ∃ f id, Succeeds event s f id := by
  by_cases reachable : s.isReachable = true
  swap
  · exact .inl ⟨_, _, .unreachable (by simpa using reachable)⟩
  rcases begin : s.fault? .begin with _ | fault
  swap
  · exact .inl ⟨_, _, .unbegun reachable begin⟩
  have begins : s.Begins := ⟨reachable, begin⟩
  rcases error_or_ok ((s.reply 0).all Row.version) with ⟨e, failure⟩ | ⟨versions, listed⟩
  · exact .inl ⟨_, _, .unlisted begins failure⟩
  by_cases complete : Matches event versions
  swap
  · exact .inl (exists_mismatch today begins listed complete)
  have declared : Declared event s versions := ⟨begins, listed, complete⟩
  rcases error_or_ok ((s.reply 1).first (Topics.unknown event.topicName) Row.topic) with
    ⟨e, failure⟩ | ⟨topic, named⟩
  · exact .inl ⟨_, _, .unnamed declared failure⟩
  have named : Named event s versions topic := ⟨declared, (Reply.first_ok _).mp named⟩
  rcases error_or_ok ((s.reply 2).first (Consumers.unknown event.consumerId) Row.consumer) with
    ⟨e, failure⟩ | ⟨consumer, addressed⟩
  · exact .inl ⟨_, _, .unaddressed named failure⟩
  have found := (Reply.first_ok _).mp addressed
  by_cases own : consumer.tenantId = event.tenantId
  swap
  · exact .inl ⟨_, _, .foreign named found own⟩
  have addressed : Addressed event s versions topic consumer := ⟨named, found, own⟩
  rcases error_or_ok ((s.reply 3).first (Subscriptions.unresolved consumer.id topic.id)
      Row.subscription) with ⟨e, failure⟩ | ⟨subscription, resolved⟩
  · exact .inl ⟨_, _, .unresolved addressed failure⟩
  exact Resolved.fails_or_succeeds today ⟨addressed, (Reply.first_ok _).mp resolved⟩

theorem Succeeds.run (succeeds : Succeeds event s f id) (today : Date) :
    ∃ t, (accept event today).runOn s = (.ok id, t) ∧
      t.sent = s.sent ++ (lookups event f.topic f.consumer ++
        [creating event today f, entering id, .control .commit]) := by
  obtain ⟨entry, entered⟩ := succeeds.entered
  obtain ⟨t, stands, run⟩ := entered_run today succeeds.admissible succeeds.created entered
  refine ⟨_, (accept_of_begins succeeds.admissible.begins).trans
    (settle_of_ok run stands succeeds.commits), ?_⟩
  exact (stands.recorded_sent .commit).trans (by rw [List.append_assoc]; rfl)

/-! ### What a failed admission has sent -/

theorem listing_not_insert : (listing event).isInsert = false := by
  unfold listing Sent.isInsert Versions.listingSql
  simp only [String.toList_append]
  decide +kernel

theorem naming_not_insert : (naming event).isInsert = false := by
  unfold naming Sent.isInsert Topics.findingSql
  simp only [String.toList_append]
  decide +kernel

theorem addressing_not_insert : (addressing event).isInsert = false := by
  unfold addressing Sent.isInsert Consumers.readingSql
  dsimp only
  decide +kernel

theorem resolving_not_insert {topic : Topic} {consumer : Consumer} :
    (resolving event topic consumer).isInsert = false := by
  unfold resolving Sent.isInsert Subscriptions.resolvingSql
  simp only [String.toList_append]
  decide +kernel

/-- Nothing is inserted unless all checks are passed. -/
theorem Fails.admissible_of_insert (fails : Fails event today s e sent) {x : Sent}
    (member : x ∈ sent) (insert : x.isInsert = true) : ∃ f, Admissible event s f := by
  cases fails with
  | uncreated admissible | unentered admissible | uncommitted admissible => exact ⟨_, admissible⟩
  | unreachable => cases member
  | unbegun | unlisted | mismatched | unnamed | unaddressed | foreign | unresolved | unversioned =>
    have control (c : Control) : (Sent.control c).isInsert = false := rfl
    have other : x.isInsert = false := by
      simp only [lookups, List.mem_cons, List.not_mem_nil, or_false] at member
      grind [listing_not_insert, naming_not_insert, addressing_not_insert, resolving_not_insert]
    rw [other] at insert
    cases insert

theorem Fails.of_commit (fails : Fails event today s e sent)
    (member : .control .commit ∈ sent) :
    ∃ f id, Admissible event s f ∧ (s.reply 4).Shows eventId id ∧
      (∃ entry, (s.reply 5).Shows eventId entry) ∧ ¬ s.Commits := by
  cases fails with
  | uncommitted admissible created entered uncommitted =>
    exact ⟨_, _, admissible, created, ⟨_, entered⟩, by simp [Session.Commits, uncommitted]⟩
  | _ => simp [lookups, listing, naming, addressing, resolving, creating, entering] at member

/-- An event is admitted exactly if the tenant has versions of just the names for which it brings
payloads, its topic, its consumer, who is one of the tenant's, and their subscription are found, the
consumer reads a version of the tenant, and both rows are inserted and committed. What is inserted
is then the event with the payload of that version and an entry for it. An admission fails in one of
the ways that `Fails` lists; it inserts nothing unless the event is admissible, commits only what
has not failed, and rolls back if the transaction had begun. -/
theorem admission_exact (event : NewEvent) (clock : Clock) (s : Session) :
    (∀ id, ((accept event clock.today).runOn s).1 = .ok id ↔
      (∃ versions topic consumer subscription,
        Resolved event s versions topic consumer subscription ∧
        ∃ version, Versions.name? versions consumer.versionId = some version) ∧
      (s.reply 4).Shows eventId id ∧ (∃ entry, (s.reply 5).Shows eventId entry) ∧ s.Commits) ∧
    (∀ id, ((accept event clock.today).runOn s).1 = .ok id → ∃ f, Admissible event s f ∧
      ((accept event clock.today).runOn s).2.sent = s.sent ++ (lookups event f.topic f.consumer ++
        [creating event clock.today f, entering id, .control .commit])) ∧
    (∀ e, ((accept event clock.today).runOn s).1 = .error e ↔
      ∃ sent, Fails event clock.today s e sent) ∧
    ∀ e sent, Fails event clock.today s e sent →
      Closed s sent ((accept event clock.today).runOn s).2 ∧
      (∀ x ∈ sent, x.isInsert = true → ∃ f, Admissible event s f) ∧
      (.control .commit ∈ sent → ∃ f id, Admissible event s f ∧ (s.reply 4).Shows eventId id ∧
        (∃ entry, (s.reply 5).Shows eventId entry) ∧ ¬ s.Commits) := by
  have failed {e sent} (fails : Fails event clock.today s e sent) :
      ((accept event clock.today).runOn s).1 = .error e ∧
        Closed s sent ((accept event clock.today).runOn s).2 := by
    obtain ⟨t, run, closed⟩ := fails.run
    rw [run]
    exact ⟨rfl, closed⟩
  have succeeded {id} (fine : ((accept event clock.today).runOn s).1 = .ok id) :
      ∃ f, Succeeds event s f id := by
    rcases fails_or_succeeds event clock.today s with ⟨e, sent, fails⟩ | ⟨f, other, succeeds⟩
    · rw [(failed fails).1] at fine
      cases fine
    · obtain ⟨t, run, _⟩ := succeeds.run clock.today
      rw [run] at fine
      cases fine
      exact ⟨f, succeeds⟩
  refine ⟨fun id => ⟨fun fine => ?_, ?_⟩, fun id fine => ?_, fun e => ⟨fun failure => ?_, ?_⟩, ?_⟩
  · obtain ⟨f, admissible, created, entered, commits⟩ := succeeded fine
    exact ⟨⟨_, _, _, _, admissible.toResolved, _, admissible.version_known⟩, created, entered,
      commits⟩
  · rintro ⟨⟨versions, topic, consumer, subscription, resolved, version, known⟩, created, entered,
      commits⟩
    obtain ⟨payload, admissible⟩ := resolved.admissible known
    have succeeds : Succeeds event s _ id := ⟨admissible, created, entered, commits⟩
    obtain ⟨t, run, _⟩ := succeeds.run clock.today
    rw [run]
  · obtain ⟨f, succeeds⟩ := succeeded fine
    obtain ⟨t, run, sent_eq⟩ := succeeds.run clock.today
    exact ⟨f, succeeds.admissible, by rw [run]; exact sent_eq⟩
  · rcases fails_or_succeeds event clock.today s with ⟨other, sent, fails⟩ | ⟨f, id, succeeds⟩
    · rw [(failed fails).1] at failure
      cases failure
      exact ⟨sent, fails⟩
    · obtain ⟨t, run, _⟩ := succeeds.run clock.today
      rw [run] at failure
      cases failure
  · rintro ⟨sent, fails⟩
    exact (failed fails).1
  · intro e sent fails
    exact ⟨(failed fails).2, fun x member insert => fails.admissible_of_insert member insert,
      fails.of_commit⟩

end Admission

end Courier
