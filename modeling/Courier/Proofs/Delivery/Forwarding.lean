import Courier.Delivery.Response
import Courier.Proofs.Data.Dict
import Courier.Proofs.Delivery.KeptText
import Mathlib.Data.List.DropRight
import Mathlib.Data.List.Sort

/-!
# Captured headers

An event's captured headers are sent with its payload, except for those that the client manages.
So what is captured under a managed name, however it is written, does not matter to anyone, and
what the client sets stands in every post just as it was set: `managed_headers_stay`.
-/

namespace Courier

/-! ### Names in lower case -/

namespace Text

theorem lowerFrom_of_ascii {before s : List Char} (ascii : ∀ c ∈ s, c.toNat < 128) :
    lowerFrom before s = s.map Char.toLower := by
  induction s generalizing before with
  | nil => rfl
  | cons c rest ih =>
    have small : c.toNat < 128 := ascii c List.mem_cons_self
    have plain : c ≠ 'Σ' := by
      rintro rfl
      exact absurd small (by decide)
    rw [lowerFrom, if_neg plain, lowerChar, if_pos small,
      ih fun d mem => ascii d (List.mem_cons_of_mem _ mem)]
    rfl

theorem lowerCase_of_ascii {s : String} (ascii : ∀ c ∈ s.toList, c.toNat < 128) :
    lowerCase s = s.toLower := by
  show lowerCase s = s.map Char.toLower
  rw [lowerCase, lowerFrom_of_ascii ascii, ← String.toList_inj, String.toList_ofList,
    String.toList_map]

end Text

namespace Header

theorem ascii_of_isAlphanum {c : Char} (alphanumeric : c.isAlphanum = true) : c.toNat < 128 := by
  change (decide (c.val ≥ 'A'.val ∧ c.val ≤ 'Z'.val) ||
    decide (c.val ≥ 'a'.val) && decide (c.val ≤ 'z'.val) ||
    decide (c.val ≥ '0'.val) && decide (c.val ≤ '9'.val)) = true at alphanumeric
  simp [UInt32.le_iff_toNat_le] at alphanumeric
  omega

theorem ascii_of_isTokenChar {c : Char} (token : isTokenChar c = true) : c.toNat < 128 := by
  simp only [isTokenChar, Bool.or_eq_true, decide_eq_true_eq] at token
  obtain ((alphanumeric | sign) | quote) | tick := token
  · exact ascii_of_isAlphanum alphanumeric
  · have small : "!#$%&*+-.^_|~".toList.all (fun d => d.toNat < 128) = true := by decide
    exact of_decide_eq_true (List.all_eq_true.mp small c (List.contains_iff_mem.mp sign))
  · omega
  · omega

theorem lowerCase_of_token {name : String} (token : isToken name = true) :
    Text.lowerCase name = name.toLower := by
  apply Text.lowerCase_of_ascii
  intro c mem
  exact ascii_of_isTokenChar (List.all_eq_true.mp (Bool.and_eq_true _ _ ▸ token).2 c mem)

theorem isManaged_eq_false_iff {name : String} :
    isManaged name = false ↔ Text.lowerCase name ∉ managedNames := by
  simp [isManaged]

/-! ### Values -/

theorem exists_padding (value : String) : ∃ before after,
    value.toList = before ++ ((trim value).toList ++ after) ∧
      ∀ c ∈ before ++ after, isPadding c = true := by
  have back : (trim value).toList ++ (value.toList.dropWhile isPadding).rtakeWhile isPadding =
      value.toList.dropWhile isPadding := by
    rw [trim, String.toList_ofList]
    exact List.rdropWhile_append_rtakeWhile
  refine ⟨value.toList.takeWhile isPadding,
    (value.toList.dropWhile isPadding).rtakeWhile isPadding, ?_, ?_⟩
  · rw [back, List.takeWhile_append_dropWhile]
  · intro c mem
    obtain first | last := List.mem_append.mp mem
    · exact List.mem_takeWhile_imp first
    · exact List.mem_rtakeWhile_imp last

variable {name : String} {headers more : List (String × String)}

def valuesOf (name : String) (headers : List (String × String)) : List String :=
  (headers.filter (·.1 = name)).map (·.2)

@[simp] theorem valuesOf_append :
    valuesOf name (headers ++ more) = valuesOf name headers ++ valuesOf name more := by
  simp [valuesOf]

theorem valuesOf_of_absent (absent : ∀ h ∈ headers, h.1 ≠ name) : valuesOf name headers = [] := by
  simpa [valuesOf] using absent

end Header

/-! ### What is forwarded -/

namespace DeliveryRequest

variable {client : ClientSettings} {r : DeliveryRequest} {h k : Dict String} {post : Post}

def capturing (r : DeliveryRequest) (headers : Dict String) : DeliveryRequest :=
  { r with headers := headers }

/-- The same is captured under every name that is not managed. -/
def CaptureAlike (h k : Dict String) : Prop :=
  ∀ name, Header.isManaged name = false → h.get? name = k.get? name

theorem mem_forwarded {name value : String} :
    (name, value) ∈ r.forwarded ↔
      r.headers.get? name = some value ∧ Header.isManaged name = false := by
  rw [forwarded, List.mem_filter, Dict.mem_entries_iff]
  simp

theorem forwarded_eq_iff : (r.capturing h).forwarded = (r.capturing k).forwarded ↔
    CaptureAlike h k := by
  have mem {d : Dict String} {name value : String} :
      (name, value) ∈ (r.capturing d).forwarded ↔
        d.get? name = some value ∧ Header.isManaged name = false := mem_forwarded
  constructor
  · intro same name free
    apply Option.ext
    intro value
    have both : (name, value) ∈ (r.capturing h).forwarded ↔
        (name, value) ∈ (r.capturing k).forwarded := by rw [same]
    rw [mem, mem] at both
    simpa [free] using both
  · intro alike
    -- Both lists are in the order of their names, so that equal members make them equal.
    have irreflexive : Std.Irrefl fun a b : String × String => a.1 < b.1 :=
      ⟨fun a => String.lt_irrefl a.1⟩
    have antisymmetric : Std.Antisymm fun a b : String × String => a.1 < b.1 :=
      ⟨fun a b less more => absurd (String.lt_trans less more) (String.lt_irrefl a.1)⟩
    apply (h.increasing.filter _).eq_of_mem_iff (k.increasing.filter _)
    rintro ⟨name, value⟩
    refine mem.trans (Iff.trans ?_ mem.symm)
    exact and_congr_left fun free => by rw [alike name free]

instance (h k : Dict String) : Decidable (CaptureAlike h k) :=
  decidable_of_iff _ (forwarded_eq_iff (r := ⟨default, "", .empty, ""⟩))

/-! ### Which requests are sent -/

def IsForwardable (r : DeliveryRequest) : Prop :=
  ∀ name value, r.headers.get? name = some value → Header.isManaged name = false →
    Header.isToken name = true ∧ Header.isValue value = true

theorem isForwardable_iff : r.IsForwardable ↔
    (r.forwarded.all fun (name, value) => Header.isToken name && Header.isValue value) = true := by
  rw [List.all_eq_true]
  constructor
  · rintro forwardable ⟨name, value⟩ mem
    obtain ⟨captured, free⟩ := mem_forwarded.mp mem
    exact (Bool.and_eq_true _ _).mpr (forwardable name value captured free)
  · intro all name value captured free
    exact (Bool.and_eq_true _ _).mp (all _ (mem_forwarded.mpr ⟨captured, free⟩))

instance (r : DeliveryRequest) : Decidable r.IsForwardable :=
  decidable_of_iff _ isForwardable_iff.symm

def IsWeb (u : Url) : Prop := u.scheme = "http" ∨ u.scheme = "https"

theorem post?_eq_some_iff : r.post? client = some post ↔
    ∃ u, r.destination = some u ∧ IsWeb u ∧ r.IsForwardable ∧
      post = ⟨u, r.postHeaders client u, r.body⟩ := by
  rw [isForwardable_iff]
  unfold post? IsWeb
  cases r.destination with
  | none => simp
  | some u =>
    simp only [Option.bind_eq_bind, Option.bind_some, Option.ite_none_right_eq_some,
      Option.some.injEq, exists_eq_left', and_assoc]
    constructor
    · rintro ⟨web, forwardable, same⟩
      exact ⟨web, forwardable, same.symm⟩
    · rintro ⟨web, forwardable, same⟩
      exact ⟨web, forwardable, same.symm⟩

theorem post?_isSome_iff : (r.post? client).isSome ↔
    (∃ u, r.destination = some u ∧ IsWeb u) ∧ r.IsForwardable := by
  simp only [Option.isSome_iff_exists, post?_eq_some_iff]
  constructor
  · rintro ⟨post, u, goes, web, forwardable, -⟩
    exact ⟨⟨u, goes, web⟩, forwardable⟩
  · rintro ⟨⟨u, goes, web⟩, forwardable⟩
    exact ⟨_, u, goes, web, forwardable, rfl⟩

theorem post?_of_not_forwardable (bad : ¬ r.IsForwardable) (client : ClientSettings) :
    r.post? client = none := by
  apply Option.not_isSome_iff_eq_none.mp
  intro sent
  exact bad (post?_isSome_iff.mp sent).2

theorem post?_of_alike (alike : CaptureAlike h k) (client : ClientSettings)
    (r : DeliveryRequest) :
    (r.capturing h).post? client = (r.capturing k).post? client := by
  have same := (forwarded_eq_iff (r := r)).mpr alike
  unfold post? postHeaders
  rw [same]
  rfl

/-! ### What a post carries -/

def ownHeaders (client : ClientSettings) (r : DeliveryRequest) (u : Url) :
    List (String × String) :=
  [("content-type", "application/json")] ++
    [("user-agent", Header.trim client.userAgent), ("host", u.authority)] ++
    (if r.body.isEmpty then []
      else [("content-length", String.ofList (Text.Decimal.digits r.body.utf8ByteSize))])

theorem name_of_own {u : Url} {e : String × String} (mem : e ∈ r.ownHeaders client u) :
    e.1 ∈ ["content-type", "user-agent", "host", "content-length"] := by
  unfold ownHeaders at mem
  cases empty : r.body.isEmpty
  · simp only [empty, Bool.false_eq_true, if_false, List.cons_append, List.nil_append,
      List.mem_cons, List.not_mem_nil, or_false] at mem
    obtain rfl | rfl | rfl | rfl := mem <;> simp
  · simp only [empty, if_true, List.cons_append, List.nil_append, List.append_nil,
      List.mem_cons, List.not_mem_nil, or_false] at mem
    obtain rfl | rfl | rfl := mem <;> simp

/-- What is captured as it is sent: names in lower case, and values as the receiver reads them. -/
def captured (r : DeliveryRequest) : List (String × String) :=
  r.forwarded.map fun (name, value) => (Text.lowerCase name, Header.trim value)

theorem postHeaders_eq (client : ClientSettings) (r : DeliveryRequest) (u : Url) :
    r.postHeaders client u =
      authorization u ++ [("content-type", "application/json")] ++ r.captured ++
        (if r.captured.any (·.1 = "accept") then [] else [("accept", "*/*")]) ++
        [("user-agent", Header.trim client.userAgent), ("host", u.authority)] ++
        (if r.body.isEmpty then []
          else [("content-length", String.ofList (Text.Decimal.digits r.body.utf8ByteSize))]) :=
  rfl

theorem unmanaged_of_captured {e : String × String} (mem : e ∈ r.captured) :
    e.1 ∉ Header.managedNames := by
  obtain ⟨⟨name, value⟩, forwarded, rfl⟩ := List.mem_map.mp mem
  exact Header.isManaged_eq_false_iff.mp (mem_forwarded.mp forwarded).2

theorem unmanaged_of_authorization {u : Url} {e : String × String} (mem : e ∈ authorization u) :
    e.1 ∉ Header.managedNames := by
  have named : e.1 = "authorization" := by
    unfold authorization at mem
    split at mem
    · cases mem
    · dsimp only at mem
      split at mem
      · cases mem
      · rw [List.mem_singleton.mp mem]
  rw [named]
  decide

theorem valuesOf_postHeaders {name : String} (managed : name ∈ Header.managedNames)
    (client : ClientSettings) (r : DeliveryRequest) (u : Url) :
    Header.valuesOf name (r.postHeaders client u) =
      Header.valuesOf name (r.ownHeaders client u) := by
  have absent {headers : List (String × String)}
      (free : ∀ e ∈ headers, e.1 ∉ Header.managedNames) : Header.valuesOf name headers = [] :=
    Header.valuesOf_of_absent fun e mem same => free e mem (same ▸ managed)
  have introduced := absent fun e => unmanaged_of_authorization (u := u) (e := e)
  have captured := absent fun e => unmanaged_of_captured (r := r) (e := e)
  have accepted : Header.valuesOf name
      (if r.captured.any (·.1 = "accept") then [] else [("accept", "*/*")]) = [] := by
    split
    · rfl
    · exact absent (by decide)
  rw [postHeaders_eq, ownHeaders]
  simp only [Header.valuesOf_append, introduced, captured, accepted, List.nil_append,
    List.append_nil]

/-- Names that can be sent have no letters beyond ASCII, so that their lower case is the one in
which receivers compare them. -/
theorem captured_of_forwardable (forwardable : r.IsForwardable) :
    r.captured = r.forwarded.map fun (name, value) => (name.toLower, Header.trim value) := by
  apply List.map_congr_left
  rintro ⟨name, value⟩ mem
  obtain ⟨captured, free⟩ := mem_forwarded.mp mem
  have token := (forwardable name value captured free).1
  exact congrArg (·, Header.trim value) (Header.lowerCase_of_token token)

/-- A post carries a request: the client's headers once each under their names, whatever is
captured, and beside them every captured header that is not managed. -/
structure Carries (client : ClientSettings) (r : DeliveryRequest) (post : Post) : Prop where
  url : r.destination = some post.url
  body : post.body = r.body
  contentType : Header.valuesOf "content-type" post.headers = ["application/json"]
  userAgent : Header.valuesOf "user-agent" post.headers = [Header.trim client.userAgent]
  host : Header.valuesOf "host" post.headers = [post.url.authority]
  length : Header.valuesOf "content-length" post.headers =
    if r.body.isEmpty then [] else [String.ofList (Text.Decimal.digits r.body.utf8ByteSize)]
  others : ∀ name ∈ Header.managedNames,
    name ∉ ["content-type", "user-agent", "host", "content-length"] →
      Header.valuesOf name post.headers = []
  captured : (r.forwarded.map fun (name, value) => (name.toLower, Header.trim value)).Sublist
    post.headers
  /-- What is sent of a value is all of it but the padding around it. -/
  padding : ∀ e ∈ r.forwarded, ∃ before after,
    e.2.toList = before ++ ((Header.trim e.2).toList ++ after) ∧
      ∀ c ∈ before ++ after, Header.isPadding c = true

theorem carries_of_post? (sent : r.post? client = some post) : r.Carries client post := by
  obtain ⟨u, goes, -, forwardable, rfl⟩ := post?_eq_some_iff.mp sent
  have within : r.captured <:+: r.postHeaders client u := by
    rw [postHeaders_eq, List.append_assoc, List.append_assoc]
    exact ⟨_, _, rfl⟩
  refine ⟨goes, rfl, ?_, ?_, ?_, ?_, ?_, captured_of_forwardable forwardable ▸ within.sublist,
    fun e _ => Header.exists_padding e.2⟩
  · rw [valuesOf_postHeaders (by decide)]
    cases empty : r.body.isEmpty <;> simp [Header.valuesOf, ownHeaders, empty]
  · rw [valuesOf_postHeaders (by decide)]
    cases empty : r.body.isEmpty <;> simp [Header.valuesOf, ownHeaders, empty]
  · rw [valuesOf_postHeaders (by decide)]
    cases empty : r.body.isEmpty <;> simp [Header.valuesOf, ownHeaders, empty]
  · rw [valuesOf_postHeaders (by decide)]
    cases empty : r.body.isEmpty <;> simp [Header.valuesOf, ownHeaders, empty]
  · intro name managed other
    rw [valuesOf_postHeaders managed]
    exact Header.valuesOf_of_absent fun e mem same => other (same ▸ name_of_own mem)

end DeliveryRequest

namespace Client

open DeliveryRequest (CaptureAlike IsWeb)

section Attempt

variable {c : Client} {r : DeliveryRequest} {h k : Dict String} {post : Post}
  {m : Type → Type} [Monad m]

theorem deliver_of_sent (sent : r.post? c.settings = some post) (send : Post → m Exchange) :
    c.deliver send r = Response.ofExchange r <$> send post := by
  rw [deliver, sent]

theorem deliver_of_unsent (unsent : r.post? c.settings = none) (send : Post → m Exchange) :
    c.deliver send r = pure (.ofExchange r ⟨.failed unsendable, .zero⟩) := by
  rw [deliver, unsent]

theorem deliver_of_alike (alike : CaptureAlike h k) (send : Post → m Exchange) :
    c.deliver send (r.capturing h) = c.deliver send (r.capturing k) := by
  have same := DeliveryRequest.post?_of_alike alike c.settings r
  cases sent : (r.capturing h).post? c.settings with
  | none =>
    rw [deliver_of_unsent sent, deliver_of_unsent (same ▸ sent)]
    rfl
  | some post =>
    rw [deliver_of_sent sent, deliver_of_sent (same ▸ sent)]
    rfl

end Attempt

/-- Two requests that differ in nothing but what is captured under managed names make the same post
and come to the same response, over whatever they are sent. A post carries the client's headers
once each and every other captured header. A request with a captured header that cannot be sent
ends in state OTHER and sends nothing; nothing else that is captured keeps one from being sent. -/
theorem managed_headers_stay (c : Client) (r : DeliveryRequest) :
    (∀ h k : Dict String, CaptureAlike h k →
      (r.capturing h).post? c.settings = (r.capturing k).post? c.settings ∧
      ∀ (m : Type → Type) [Monad m] (send : Post → m Exchange),
        c.deliver send (r.capturing h) = c.deliver send (r.capturing k)) ∧
    (∀ post, r.post? c.settings = some post → r.Carries c.settings post ∧
      ∀ (m : Type → Type) [Monad m] (send : Post → m Exchange),
        c.deliver send r = Response.ofExchange r <$> send post) ∧
    (¬ r.IsForwardable → ∃ response : Response, response.state = .other ∧
      ∀ (m : Type → Type) [Monad m] (send : Post → m Exchange),
        c.deliver send r = pure response) ∧
    ((r.post? c.settings).isSome ↔
      (∃ u, r.destination = some u ∧ IsWeb u) ∧ r.IsForwardable) := by
  refine ⟨?_, ?_, ?_, DeliveryRequest.post?_isSome_iff⟩
  · intro h k alike
    exact ⟨DeliveryRequest.post?_of_alike alike c.settings r, fun m _ send => deliver_of_alike alike send⟩
  · intro post sent
    exact ⟨DeliveryRequest.carries_of_post? sent, fun m _ send => deliver_of_sent sent send⟩
  · intro bad
    have unsent := DeliveryRequest.post?_of_not_forwardable bad c.settings
    refine ⟨.ofExchange r ⟨.failed unsendable, .zero⟩, ?_,
      fun m _ send => deliver_of_unsent unsent send⟩
    change (Outcome.ofFailure unsendable).state = .other
    decide +kernel

/-- One name in two spellings, and two names that are managed. -/
def spelled : Dict String :=
  .ofList [("X-Tag", "1"), ("x-tag", " 2"), ("KEEP-Alive", "5\x00"), ("Host", "spoofed")]

def plain : Dict String := .ofList [("X-Tag", "1"), ("x-tag", " 2")]

def spaced : Dict String := .ofList [("X-Tag", "1"), ("x tag", "2")]

theorem managed_headers_stay_spelled :
    (CaptureAlike spelled plain ∧ spelled ≠ plain ∧
        patient.deliver sendNul (call.capturing spelled) =
          patient.deliver sendNul (call.capturing plain)) ∧
      (∃ post, (call.capturing spelled).post? patient.settings = some post ∧
        (call.capturing spelled).Carries patient.settings post) ∧
      (¬ (call.capturing spaced).IsForwardable ∧ ∃ response : Response, response.state = .other ∧
        patient.deliver sendNul (call.capturing spaced) = pure response) := by
  have alike : CaptureAlike spelled plain := by decide +kernel
  obtain ⟨post, sent⟩ : ∃ post, (call.capturing spelled).post? patient.settings = some post :=
    Option.isSome_iff_exists.mp (by decide +kernel)
  have bad : ¬ (call.capturing spaced).IsForwardable := by decide +kernel
  obtain ⟨response, other, same⟩ := (managed_headers_stay patient (call.capturing spaced)).2.2.1 bad
  refine ⟨⟨alike, by decide +kernel, ?_⟩, ⟨post, sent, ?_⟩, bad, response, other, same _ sendNul⟩
  · exact ((managed_headers_stay patient call).1 spelled plain alike).2 _ sendNul
  · exact ((managed_headers_stay patient (call.capturing spelled)).2.1 post sent).1

end Client

end Courier
