import Courier.Delivery.Network
import Courier.Proofs.Delivery.Reading

/-!
# The states of attempts

A post meets a fate: the head of a response arrives and its body follows, breaks off or is late, or
no head arrives for one of several reasons. `Fate.documented` is the state that each fate should
leave. `states_follow_taxonomy` says that this is the state exactly if no connection is closed in
the middle of a body and a failed handshake shows as one.
-/

namespace Courier

/-! ### What happens to a post -/

/-- Why no head of a response arrives. -/
inductive Trouble where
  | late
  | closed
  | unresolved
  | insecure
  | other
  deriving DecidableEq

inductive Fate where
  | answered (status : Nat) (headers : List (String × List UInt8)) (body : ResponseBody)
  | failed (trouble : Trouble)
  deriving DecidableEq

namespace Fate

/-- The state that is documented for a fate. A response counts once it is complete, and one that
asks to slow down as soon as its head has come. -/
def documented : Fate → DeliveryState
  | answered 429 _ _ => .backoff
  | answered 200 _ (.whole _) => .delivered
  | answered _ _ (.whole _) => .httpError
  | answered _ _ .brokenOff | answered _ _ .late => .timeout
  | failed .late | failed .closed => .timeout
  | failed .unresolved => .unknownHost
  | failed .insecure => .tlsError
  | failed .other => .other

/-- What comes back shows the fate, where the transport reports a trouble by some failure. -/
def ShownBy (reports : Trouble → TransportFailure → Prop) : Fate → Reception → Prop
  | answered status headers body, came => came = .head status headers body
  | failed trouble, came => ∃ why, came = .failed why ∧ reports trouble why

/-- The connection is closed in the middle of a body that is waited for. -/
def IsCutShort (fate : Fate) : Prop :=
  ∃ status headers, status ≠ 429 ∧ fate = .answered status headers .brokenOff

/-- The handshake fails, and what comes back shows a closed connection or does not name it. -/
def IsHidden (fate : Fate) (came : Reception) : Prop :=
  fate = .failed .insecure ∧ ∃ why, came = .failed why ∧ (why.IsClosure ∨ ¬ why.SaysInsecure)

end Fate

/-- How a transport words its failures. Deadlines and closures have kinds of their own, or a closure
is named; a lookup is named; and no failure names what it does not come from. A handshake may fail
because the connection closes, and it need not be named. -/
structure Wording (reports : Trouble → TransportFailure → Prop) : Prop where
  late {f : TransportFailure} : reports .late f → f.IsLate
  closed {f : TransportFailure} : reports .closed f → f.IsClosure ∨
    f.Says ["connection closed before message completed"] ∧ ¬ f.SaysUnresolved ∧ ¬ f.SaysInsecure
  unresolved {f : TransportFailure} :
    reports .unresolved f → ¬ f.IsLate ∧ ¬ f.IsClosure ∧ f.Says ["dns error"]
  insecure {f : TransportFailure} : reports .insecure f → ¬ f.IsLate ∧ ¬ f.SaysUnresolved
  other {f : TransportFailure} : reports .other f →
    ¬ f.IsLate ∧ ¬ f.IsClosure ∧ ¬ f.SaysUnresolved ∧ ¬ f.SaysInsecure ∧ ¬ f.SaysClosed

namespace TransportFailure

variable {f : TransportFailure} {s : DeliveryState} {words more : List String}

theorem Says.mono (told : f.Says words) (within : words ⊆ more) : f.Says more := by
  obtain ⟨c, cause, w, word, occurs⟩ := told
  exact ⟨c, cause, w, within word, occurs⟩

theorem Tells.of_late (told : f.Tells s) (late : f.IsLate) : s = .timeout :=
  told.unique (.deadline late)

theorem Tells.of_closure (told : f.Tells s) (closed : f.IsClosure) : s = .timeout := by
  by_cases late : f.IsLate
  · exact told.of_late late
  · exact told.unique (.closure late closed)

theorem Tells.of_said_closed (told : f.Tells s) (resolved : ¬ f.SaysUnresolved)
    (secure : ¬ f.SaysInsecure) (closed : f.SaysClosed) : s = .timeout := by
  by_cases closure : f.IsClosure
  · exact told.of_closure closure
  by_cases late : f.IsLate
  · exact told.of_late late
  · exact told.unique (.closed late closure resolved secure closed)

end TransportFailure

namespace Wording

variable {reports : Trouble → TransportFailure → Prop} {trouble : Trouble} {f : TransportFailure}
  {s : DeliveryState}

/-- A trouble leaves the documented state, unless it is a failed handshake that does not show. -/
theorem tells_documented_iff (worded : Wording reports) (reported : reports trouble f)
    (told : f.Tells s) :
    s = (Fate.failed trouble).documented ↔
      ¬ (trouble = .insecure ∧ (f.IsClosure ∨ ¬ f.SaysInsecure)) := by
  cases trouble with
  | late => simp [Fate.documented, told.of_late (worded.late reported)]
  | closed =>
    have state : s = .timeout := by
      obtain closure | ⟨named, resolved, secure⟩ := worded.closed reported
      · exact told.of_closure closure
      · exact told.of_said_closed resolved secure (named.mono (by simp))
    simp [Fate.documented, state]
  | unresolved =>
    obtain ⟨early, opened, named⟩ := worded.unresolved reported
    have state := told.unique (.unresolved early opened (named.mono (by simp)))
    simp [Fate.documented, state]
  | insecure =>
    obtain ⟨early, resolved⟩ := worded.insecure reported
    by_cases shown : ¬ f.IsClosure ∧ f.SaysInsecure
    · obtain ⟨opened, named⟩ := shown
      have state := told.unique (.insecure early opened resolved named)
      simp [Fate.documented, state, opened, named]
    · have other : s ≠ .tlsError := by
        rintro rfl
        cases told with
        | insecure _ opened _ named => exact shown ⟨opened, named⟩
      have hidden : f.IsClosure ∨ ¬ f.SaysInsecure := by
        by_contra neither
        rw [not_or, not_not] at neither
        exact shown neither
      simp [Fate.documented, other, hidden]
  | other =>
    obtain ⟨early, opened, resolved, secure, whole⟩ := worded.other reported
    have state := told.unique (.other early opened resolved secure whole)
    simp [Fate.documented, state]

end Wording

namespace Fate

theorem documented_whole {status : Nat} (bad : status ≠ 200) (fast : status ≠ 429)
    (headers : List (String × List UInt8)) (bytes : List UInt8) :
    (answered status headers (.whole bytes)).documented = .httpError := by
  unfold documented
  split <;> simp_all

theorem documented_cut {status : Nat} (fast : status ≠ 429)
    (headers : List (String × List UInt8)) :
    (answered status headers .brokenOff).documented = .timeout := by
  unfold documented
  split <;> simp_all

theorem documented_late {status : Nat} (fast : status ≠ 429)
    (headers : List (String × List UInt8)) :
    (answered status headers .late).documented = .timeout := by
  unfold documented
  split <;> simp_all

theorem documented_slow (headers : List (String × List UInt8)) (body : ResponseBody) :
    (answered 429 headers body).documented = .backoff := by
  cases body <;> rfl

variable {reports : Trouble → TransportFailure → Prop} {fate : Fate} {came : Reception}
  {s : DeliveryState} {status? : Option Nat} {headers : Dict String} {body : Option String}

/-- What is read of an exchange is the documented state of its fate, but for the exceptions. -/
theorem reads_documented_iff (worded : Wording reports) (shown : fate.ShownBy reports came)
    (read : Response.Reads came s status? headers body) :
    s = fate.documented ↔ ¬ fate.IsCutShort ∧ ¬ fate.IsHidden came := by
  cases fate with
  | failed trouble =>
    obtain ⟨why, rfl, reported⟩ := shown
    cases read with
    | failed told =>
      rw [worded.tells_documented_iff reported told]
      simp [IsCutShort, IsHidden]
  | answered status received sent =>
    obtain rfl : came = .head status received sent := shown
    have named : ¬ (answered status received sent).IsHidden (.head status received sent) := by
      simp [IsHidden]
    cases read with
    | delivered => simp [documented, IsCutShort, named]
    | backoff => simp [documented_slow, IsCutShort, named]
    | httpError _ bad fast => simp [documented_whole bad fast, IsCutShort, named]
    | late fast => simp [documented_late fast, IsCutShort, named]
    | brokenOff fast =>
      rw [documented_cut fast]
      have cut : (answered status received .brokenOff).IsCutShort := ⟨_, _, fast, rfl⟩
      constructor
      · split <;> nofun
      · exact fun whole => absurd cut whole.1

end Fate

namespace Response

variable {came : Reception} {s : DeliveryState} {status? : Option Nat} {headers : Dict String}
  {body : Option String}

theorem Reads.of_failed {why : TransportFailure}
    (read : Reads (.failed why) s status? headers body) : why.Tells s := by
  cases read with
  | failed told => exact told

theorem Reads.status_isSome_iff (read : Reads came s status? headers body) :
    status?.isSome ↔ s = .delivered ∨ s = .backoff ∨ s = .httpError := by
  cases read with
  | brokenOff =>
    split <;> simp
  | failed told => cases told <;> simp
  | _ => simp

theorem Reads.state_of_body (read : Reads came s status? headers body) (kept : body.isSome) :
    s = .delivered ∨ s = .httpError := by
  cases read with
  | delivered => exact .inl rfl
  | httpError => exact .inr rfl
  | _ => cases kept

theorem Reads.head_of_status {status : Nat} (read : Reads came s (some status) headers body) :
    ∃ received sent, came = .head status received sent := by
  generalize shown : some status = status? at read
  cases read with
  | late | failed => cases shown
  | _ => cases shown; exact ⟨_, _, rfl⟩

end Response

/-! ### The failures of the scripted network -/

namespace Network

inductive Reports : Trouble → TransportFailure → Prop where
  | late : Reports .late deadline
  | closed : Reports .closed (sendFailure "connection closed before message completed")
  | unresolved :
      Reports .unresolved (connectFailure ["dns error", "failed to lookup address information"])
  | broken : Reports .insecure (connectFailure ["tls handshake eof"])
  | corrupt :
      Reports .insecure (connectFailure ["received corrupt message of type InvalidContentType"])
  | refused : Reports .other (connectFailure ["tcp connect error", "connection refused"])
  | unreachable : Reports .other (connectFailure ["tcp connect error", "network unreachable"])
  | misread {message : String} (said : message ∈ ["invalid HTTP header parsed",
      "invalid HTTP version parsed"]) : Reports .other (sendFailure message)

theorem reports_worded : Wording Reports where
  late reported := by
    cases reported
    decide +kernel
  closed reported := by
    cases reported
    exact .inr (by decide +kernel)
  unresolved reported := by
    cases reported
    decide +kernel
  insecure reported := by
    cases reported <;> decide +kernel
  other reported := by
    cases reported with
    | refused | unreachable => decide +kernel
    | misread said =>
      simp only [List.mem_cons, List.not_mem_nil, or_false] at said
      obtain rfl | rfl := said <;> decide +kernel

variable {timeout : Duration} {usesTls : Bool} {b : Behaviour}

theorem exists_fate_of_reception :
    ∃ fate : Fate, fate.ShownBy Reports (reception usesTls b) := by
  unfold reception
  split
  · exact ⟨.failed .other, _, rfl, .refused⟩
  split
  · split
    · exact ⟨.failed .insecure, _, rfl, .broken⟩
    · split
      · exact ⟨.failed .late, _, rfl, .late⟩
      · exact ⟨.failed .insecure, _, rfl, .corrupt⟩
  · have answers (status : Nat) (headers received : List (String × List UInt8))
        (body : ResponseBody) : ∃ fate : Fate, fate.ShownBy Reports
          (if isHead headers then .head status received body
            else .failed (sendFailure "invalid HTTP header parsed")) := by
      split
      · exact ⟨.answered _ _ _, rfl⟩
      · exact ⟨.failed .other, _, rfl, .misread (by simp)⟩
    dsimp only
    split
    · exact answers _ _ _ _
    · exact answers _ _ _ _
    · exact answers _ _ _ _
    · exact ⟨.failed .late, _, rfl, .late⟩
    · exact ⟨.failed .closed, _, rfl, .closed⟩
    · exact ⟨.failed .closed, _, rfl, .closed⟩
    all_goals exact ⟨.failed .other, _, rfl, .misread (by simp)⟩

theorem exists_fate_of_exchange :
    ∃ fate : Fate, fate.ShownBy Reports (exchange timeout usesTls b).reception := by
  obtain ⟨fate, shown⟩ : ∃ fate : Fate, fate.ShownBy Reports (reception usesTls b) :=
    exists_fate_of_reception
  unfold exchange
  split
  · exact ⟨.failed .late, _, rfl, .late⟩
  · split
    · next why came => exact ⟨fate, came ▸ shown⟩
    · next status headers came => exact ⟨fate, came ▸ shown⟩
    · exact ⟨fate, shown⟩

/-- Every post over the scripted network meets a fate. -/
theorem exists_fate (timeout : Duration) (post : Post) (n : Network) :
    ∃ fate : Fate, fate.ShownBy Reports ((send timeout post).run n).1.reception := by
  show ∃ fate : Fate, fate.ShownBy Reports (send timeout post n).1.reception
  unfold send
  dsimp only
  split
  · exact ⟨.failed .unresolved, _, rfl, .unresolved⟩
  split
  · exact ⟨.failed .other, _, rfl, .unreachable⟩
  split
  · exact exists_fate_of_exchange
  · exact ⟨.failed .other, _, rfl, .refused⟩

end Network

namespace Client

/-- What comes back for a request; nothing is sent for one that cannot be. -/
def receives {σ : Type} (c : Client) (send : Post → StateM σ Exchange) (r : DeliveryRequest)
    (world : σ) : Reception :=
  match r.post? c.settings with
  | some post => ((send post).run world).1.reception
  | none => .failed unsendable

/-- The fate of a request. One that cannot be sent fails for a reason of its own. -/
def Meets {σ : Type} (c : Client) (reports : Trouble → TransportFailure → Prop)
    (send : Post → StateM σ Exchange) (r : DeliveryRequest) (world : σ) (fate : Fate) : Prop :=
  match r.post? c.settings with
  | some post => fate.ShownBy reports ((send post).run world).1.reception
  | none => fate = .failed .other

variable {σ : Type} (c : Client) (send : Post → StateM σ Exchange) (r : DeliveryRequest) (world : σ)
  {reports : Trouble → TransportFailure → Prop} {fate : Fate}

theorem deliver_reads : Response.Reads (c.receives send r world)
    ((c.deliver send r).run world).1.state ((c.deliver send r).run world).1.status
    ((c.deliver send r).run world).1.headers ((c.deliver send r).run world).1.body := by
  rw [deliver_run, receives]
  cases r.post? c.settings with
  | some post => exact Response.reads r ((send post).run world).1
  | none => exact Response.reads r ⟨.failed unsendable, .zero⟩

theorem unsendable_tells : unsendable.Tells .other :=
  .other (by decide +kernel) (by decide +kernel) (by decide +kernel) (by decide +kernel)
    (by decide +kernel)

theorem Meets.documented_iff (worded : Wording reports) (meets : c.Meets reports send r world fate) :
    ((c.deliver send r).run world).1.state = fate.documented ↔
      ¬ fate.IsCutShort ∧ ¬ fate.IsHidden (c.receives send r world) := by
  have read := c.deliver_reads send r world
  unfold Meets at meets
  unfold receives at read ⊢
  cases sent : r.post? c.settings with
  | some post =>
    rw [sent] at meets read
    exact fate.reads_documented_iff worded meets read
  | none =>
    rw [sent] at meets read
    subst meets
    have state := read.of_failed.unique unsendable_tells
    simp [state, Fate.documented, Fate.IsCutShort, Fate.IsHidden]

theorem Meets.answered (meets : c.Meets reports send r world fate) {status : Nat}
    {headers : List (String × List UInt8)} {body : ResponseBody}
    (came : c.receives send r world = .head status headers body) :
    fate = .answered status headers body := by
  unfold Meets at meets
  unfold receives at came
  cases sent : r.post? c.settings with
  | none =>
    rw [sent] at came
    cases came
  | some post =>
    rw [sent] at meets came
    dsimp only at meets came
    rw [came] at meets
    cases fate with
    | failed trouble =>
      obtain ⟨why, other, -⟩ := meets
      cases other
    | answered =>
      cases show Reception.head _ _ _ = _ from meets
      rfl

theorem meets_of_shown (sendable : (r.post? c.settings).isSome)
    (shown : fate.ShownBy reports (c.receives send r world)) :
    c.Meets reports send r world fate := by
  unfold Meets
  unfold receives at shown
  cases sent : r.post? c.settings with
  | none =>
    rw [sent] at sendable
    cases sendable
  | some post =>
    rw [sent] at shown
    exact shown

/-- Whatever happens to a request, its state is the documented one exactly if no connection is closed
in the middle of a body that is waited for, and no failed handshake shows as a closed connection or
goes unnamed. There is a status for what was delivered, asks to slow down or is an error, and it is
that of the head that came; and there is a body only for the first and the last of these. -/
theorem states_follow_taxonomy (worded : Wording reports)
    (meets : c.Meets reports send r world fate) :
    (((c.deliver send r).run world).1.state = fate.documented ↔
        ¬ fate.IsCutShort ∧ ¬ fate.IsHidden (c.receives send r world)) ∧
      (((c.deliver send r).run world).1.status.isSome ↔
        ((c.deliver send r).run world).1.state = .delivered ∨
        ((c.deliver send r).run world).1.state = .backoff ∨
        ((c.deliver send r).run world).1.state = .httpError) ∧
      (∀ status, ((c.deliver send r).run world).1.status = some status →
        ∃ headers body, fate = .answered status headers body) ∧
      (((c.deliver send r).run world).1.body.isSome →
        ((c.deliver send r).run world).1.state = .delivered ∨
        ((c.deliver send r).run world).1.state = .httpError) := by
  have read := c.deliver_reads send r world
  refine ⟨meets.documented_iff c send r world worded, read.status_isSome_iff, ?_,
    read.state_of_body⟩
  intro status shown
  rw [shown] at read
  obtain ⟨headers, body, came⟩ := read.head_of_status
  exact ⟨headers, body, meets.answered c send r world came⟩

/-- Receivers that answer, close and break off a handshake. -/
def various : Network :=
  ⟨[⟨"fine", "[::1]", [⟨.respond, 200, [], [111, 107], .zero⟩]⟩,
    ⟨"closing", "[::2]", [⟨.close, 200, [], [], .zero⟩]⟩,
    ⟨"unsafe", "[::3]", [⟨.closeOnHello, 200, [], [], .zero⟩]⟩], true, []⟩

def calling (url : String) : DeliveryRequest := { call with url := url }

/-- What happens to some requests over that network: a response arrives, a connection closes before
one, a handshake fails, and nobody listens. -/
def fates : List (String × Fate) :=
  [("http://[::1]/", .answered 200 [("content-length", [50])] (.whole [111, 107])),
    ("http://[::2]/", .failed .closed), ("https://[::3]/", .failed .insecure),
    ("http://[::4]/", .failed .other)]

theorem various_shows : ∀ attempt ∈ fates, attempt.2.ShownBy Network.Reports
    (patient.receives (Network.send (.ofMillis 10000)) (calling attempt.1) various) := by
  intro attempt listed
  simp only [fates, List.mem_cons, List.not_mem_nil, or_false] at listed
  obtain rfl | rfl | rfl | rfl := listed
  · show patient.receives _ _ _ = _
    decide +kernel
  · exact ⟨_, by decide +kernel, .closed⟩
  · exact ⟨_, by decide +kernel, .broken⟩
  · exact ⟨_, by decide +kernel, .refused⟩

theorem exists_meets (c : Client) (timeout : Duration) (r : DeliveryRequest) (n : Network) :
    ∃ fate : Fate, c.Meets Network.Reports (Network.send timeout) r n fate := by
  unfold Meets
  split
  · exact Network.exists_fate timeout _ n
  · exact ⟨_, rfl⟩

theorem fates_follow {attempt : String × Fate} (listed : attempt ∈ fates) :
    ¬ attempt.2.IsCutShort ∧ ¬ attempt.2.IsHidden
      (patient.receives (Network.send (.ofMillis 10000)) (calling attempt.1) various) := by
  simp only [fates, List.mem_cons, List.not_mem_nil, or_false] at listed
  obtain rfl | rfl | rfl | rfl := listed
  · simp [Fate.IsCutShort, Fate.IsHidden]
  · simp [Fate.IsCutShort, Fate.IsHidden]
  · refine ⟨by simp [Fate.IsCutShort], ?_⟩
    rintro ⟨-, why, came, unnamed⟩
    have broken : patient.receives (Network.send (.ofMillis 10000)) (calling "https://[::3]/")
        various = .failed (Network.connectFailure ["tls handshake eof"]) := by
      decide +kernel
    cases broken.symm.trans came
    revert unnamed
    decide +kernel
  · simp [Fate.IsCutShort, Fate.IsHidden]

/-- Every request over that network meets a fate, and these leave the documented states. -/
theorem states_follow_taxonomy_various :
    Wording Network.Reports ∧
    (∀ r, ∃ fate : Fate, patient.Meets Network.Reports (Network.send (.ofMillis 10000)) r various
      fate) ∧
    ∀ attempt ∈ fates,
      patient.Meets Network.Reports (Network.send (.ofMillis 10000)) (calling attempt.1) various
          attempt.2 ∧
        ((patient.deliver (Network.send (.ofMillis 10000)) (calling attempt.1)).run various).1.state =
          attempt.2.documented := by
  refine ⟨Network.reports_worded, fun r => exists_meets patient _ r various, fun attempt listed => ?_⟩
  have sendable : ((calling attempt.1).post? patient.settings).isSome := by
    revert attempt
    decide +kernel
  have meets := meets_of_shown patient _ _ _ sendable (various_shows attempt listed)
  exact ⟨meets, (states_follow_taxonomy patient _ _ _ Network.reports_worded meets).1.mpr
    (fates_follow listed)⟩

/-- A receiver that announces more than it sends, and another that answers a secure greeting in
plain text. -/
def careless : Network :=
  ⟨[⟨"short", "[::1]", [⟨.shortBody, 200, [], [111, 107], .zero⟩]⟩,
    ⟨"plain", "[::2]", [⟨.notTls, 200, [], [], .zero⟩]⟩], true, []⟩

/-- An answer that is cut short counts as delivered, and a failed handshake as no failure of the
secure channel. -/
theorem cut_short_is_delivered :
    (∃ fate : Fate, patient.Meets Network.Reports (Network.send (.ofMillis 10000)) call careless
        fate ∧ fate.IsCutShort ∧ fate.documented = .timeout ∧
      ((patient.deliver (Network.send (.ofMillis 10000)) call).run careless).1.state =
        .delivered) ∧
    ∃ fate : Fate, patient.Meets Network.Reports (Network.send (.ofMillis 10000))
        (calling "https://[::2]/") careless fate ∧ fate.documented = .tlsError ∧
      ((patient.deliver (Network.send (.ofMillis 10000))
        (calling "https://[::2]/")).run careless).1.state = .other := by
  constructor
  · refine ⟨.answered 200 [("content-length", [49, 50])] .brokenOff, ?_, ⟨200, _, by decide, rfl⟩,
      rfl, by decide +kernel⟩
    refine meets_of_shown patient _ call careless (by decide +kernel) ?_
    show patient.receives _ _ _ = _
    decide +kernel
  · refine ⟨.failed .insecure, ?_, rfl, by decide +kernel⟩
    refine meets_of_shown patient _ (calling "https://[::2]/") careless (by decide +kernel) ?_
    exact ⟨_, by decide +kernel, .corrupt⟩

end Client

end Courier
