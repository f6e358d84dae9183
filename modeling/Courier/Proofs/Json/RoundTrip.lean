import Courier.Json.Codec
import Courier.Proofs.Calendar.InstantText
import Courier.Proofs.Identity.UuidText
import Courier.Proofs.Json.Records

/-!
# Nothing is lost in JSON

Every value of the model is read back from its JSON text, in whatever order the text has the entries
of its maps. Only a request body that is null is read as none.
-/

namespace Courier

open Json Json.Decoder

namespace Json

section Scalars

variable {levels : Nat}

theorem reads_id {e : Entity} (i : Id e) : Json.id.Reads levels (.string i.text) i := by
  refine reads_ofText ?_
  rw [Id.text, Uuid.parse?_text]
  rfl

theorem reads_instant (t : Instant) : instant.Reads levels (.string t.text) t :=
  reads_ofText (Instant.parse?_text t)

theorem reads_date (d : Date) : date.Reads levels (.string d.text) d := by
  refine reads_ofText ?_
  rw [Date.text, String.toList_ofList]
  exact Date.parse?_format rfl rfl d

theorem reads_state (s : DeliveryState) : state.Reads levels (.string s.name) s :=
  reads_variant (DeliveryState.ofName?_name s)

theorem reads_int32 (n : Int32) : int32.Reads levels (.int n.toInt) n := by
  have least := n.le_toInt
  have greatest := n.toInt_lt
  have reads : (integer (-2147483648) 2147483647).Reads levels (.int n.toInt) n.toInt :=
    reads_integer (by omega) (by omega) (by omega)
  have back := reads_map Int32.ofInt reads
  rwa [Int32.ofInt_toInt] at back

theorem reads_int64 (n : Int64) : int64.Reads levels (.int n.toInt) n := by
  have least := n.le_toInt
  have greatest := n.toInt_lt
  have reads : (integer (-9223372036854775808) 9223372036854775807).Reads levels (.int n.toInt)
      n.toInt := reads_integer (by omega) (by omega) (by omega)
  have back := reads_map Int64.ofInt reads
  rwa [Int64.ofInt_toInt] at back

theorem nat_eq_int (n : Nat) : Json.nat n = .int n := by
  rw [int, if_neg (by omega), Int.toNat_natCast, nat]

theorem reads_natural {n : Nat} {greatest : Int} (small : n ≤ greatest) (fits : n < 2 ^ 64) :
    ((integer 0 greatest).map Int.toNat).Reads levels (.nat n) n := by
  have reads : (integer 0 greatest).Reads levels (.int n) n :=
    reads_integer (by omega) small (by omega)
  rw [nat_eq_int]
  exact reads_map Int.toNat reads

theorem ofParts?_parts (d : Duration) : Duration.ofParts? d.seconds d.subsecond = some d := by
  have parts : d.seconds * 1000000000 + d.subsecond = d.nanos := Nat.div_add_mod' _ _
  unfold Duration.ofParts? Duration.ofNanos?
  rw [parts, dif_pos d.fits]

/-- What makes the duration is left open here, as it need not be run. -/
theorem bind_parts {x : Except Failure (Nat × Nat)} {f : Nat → Nat → Option Duration}
    {s n : Nat} {d : Duration} (parts : x = .ok (s, n)) (made : f s n = some d) :
    (do
      let (s, n) ← x
      match f s n with
      | some d => .ok d
      | none => .error .malformed) = (.ok d : Except Failure Duration) := by
  subst parts
  dsimp only [bind, Except.bind]
  rw [made]

theorem reads_duration (d : Duration) : duration.Reads (levels + 1) d.toJson d := by
  have fits := d.fits
  have many : d.seconds < 2 ^ 64 := by
    unfold Duration.seconds
    omega
  have few : d.subsecond < 1000000000 := Nat.mod_lt _ (by decide)
  have seconds : seconds64.Reads levels (.nat d.seconds) d.seconds :=
    reads_natural (by omega) many
  have nanos : nanos32.Reads levels (.nat d.subsecond) d.subsecond :=
    reads_natural (by omega) (by omega)
  have fields := (((Record.Reads.make fun (s n : Nat) => (s, n)).required "secs" seconds
    (by simp)).required "nanos" nanos (by simp)).decoder true
  exact ⟨fields.isExact, fun w alike => bind_parts (fields.read w alike) (ofParts?_parts d)⟩

theorem string_ne_null (s : String) : Json.string s ≠ .null := Json.noConfusion

theorem texts_ne_null (d : Dict String) : Json.texts d ≠ .null := Json.noConfusion

theorem int_ne_null (i : Int) : Json.int i ≠ .null := by
  rw [int]
  split <;> exact Json.noConfusion

theorem reads_texts? (o : Option (Dict String)) :
    (Decoder.dict Decoder.text).nullable.Reads (levels + 1) (.option .texts o) o :=
  reads_option texts_ne_null fun d _ => reads_texts d

theorem reads_text? (o : Option String) :
    Decoder.text.nullable.Reads levels (.option .string o) o :=
  reads_option string_ne_null fun s _ => reads_text s

theorem reads_int32? (o : Option Int32) :
    int32.nullable.Reads levels (.option (fun n => .int n.toInt) o) o :=
  reads_option (fun n => int_ne_null n.toInt) fun n _ => reads_int32 n

theorem reads_int64? (o : Option Int64) :
    int64.nullable.Reads levels (.option (fun n => .int n.toInt) o) o :=
  reads_option (fun n => int_ne_null n.toInt) fun n _ => reads_int64 n

theorem reads_instant? (o : Option Instant) :
    instant.nullable.Reads levels (.option (fun t => .string t.text) o) o :=
  reads_option (fun t => string_ne_null t.text) fun t _ => reads_instant t

theorem reads_body {o : Option Json} (payload : ∀ v ∈ o, v.IsPayload)
    (within : depth (o.getD .null) ≤ levels) :
    Reads (nullable json) levels (o.getD .null) (o.filter (· ≠ .null)) := by
  cases o with
  | none => exact reads_null
  | some v =>
    by_cases null : v = .null
    · subst null
      exact reads_null
    · rw [Option.filter_some, if_pos (decide_eq_true null)]
      exact reads_nullable null (reads_json (payload v rfl) within)

end Scalars

end Json

namespace Event

/-- The event as it is read back: a body that is null counts as none. -/
def readBack (e : Event) : Event := { e with requestBody := e.requestBody.filter (· ≠ .null) }

theorem reads {levels : Nat} (e : Event) (payload : ∀ v ∈ e.requestBody, v.IsPayload)
    (within : depth e.toJson ≤ levels + 2) : decoder.Reads (levels + 2) e.toJson e.readBack := by
  have body : depth (e.requestBody.getD .null) ≤ levels + 1 :=
    depth_of_member (k := "request_body") within (by simp)
  have fields : Record.Reads (levels + 1) _ _ _ := .make Event.mk
  have fields := fields.required "id" (reads_id e.id) (by simp)
  have fields := fields.required "state" (reads_state e.state) (by simp)
  have fields := fields.required "tenant_id" (reads_id e.tenantId) (by simp)
  have fields := fields.required "consumer_id" (reads_id e.consumerId) (by simp)
  have fields := fields.required "topic_id" (reads_id e.topicId) (by simp)
  have fields := fields.required "version_id" (reads_id e.versionId) (by simp)
  have fields := fields.required "subscription_id" (reads_id e.subscriptionId) (by simp)
  have fields := fields.required "try_count" (reads_int32 e.tryCount) (by simp)
  have fields := fields.optional "request_headers" (reads_texts? e.requestHeaders) (by simp)
  have fields := fields.optional "request_body" (reads_body payload body) (by simp)
  have fields := fields.optional "url" (reads_text? e.url) (by simp)
  have fields := fields.optional "response_headers" (reads_texts? e.responseHeaders) (by simp)
  have fields := fields.optional "response_body" (reads_text? e.responseBody) (by simp)
  have fields := fields.optional "response_code" (reads_int32? e.responseCode) (by simp)
  have fields := fields.optional "duration_ms" (reads_int64? e.durationMillis) (by simp)
  have fields := fields.required "created_at" (reads_instant e.createdAt) (by simp)
  have fields := fields.required "updated_at" (reads_instant e.updatedAt) (by simp)
  have fields := fields.optional "delivered_at" (reads_instant? e.deliveredAt) (by simp)
  have fields := fields.required "partition_date" (reads_date e.partitionDate) (by simp)
  simp only [List.nil_append, List.cons_append] at fields
  exact fields.decoder false

theorem readBack_of_ne {e : Event} (present : e.requestBody ≠ some .null) : e.readBack = e := by
  have same : e.requestBody.filter (· ≠ .null) = e.requestBody := by
    cases body : e.requestBody with
    | none => rfl
    | some v =>
      have other : v ≠ .null := fun null => present (body.trans (congrArg some null))
      rw [Option.filter_some, if_pos (decide_eq_true other)]
  rw [readBack, same]

theorem readBack_of_null {e : Event} (null : e.requestBody = some .null) :
    e.readBack = { e with requestBody := none } := by
  rw [readBack, null]
  rfl

theorem toJson_readBack (e : Event) : e.readBack.toJson = e.toJson := by
  by_cases null : e.requestBody = some .null
  · rw [readBack_of_null null, toJson, toJson, null]
    rfl
  · rw [readBack_of_ne null]

end Event

namespace NewEvent

theorem reads {levels : Nat} (e : NewEvent)
    (payloads : ∀ p ∈ e.versionedPayload.entries, p.2.IsPayload)
    (within : depth e.toJson ≤ levels + 2) : decoder.Reads (levels + 2) e.toJson e := by
  have versions : depth (.dict e.versionedPayload) ≤ levels + 1 :=
    depth_of_member (k := "versioned_payload") within (by simp)
  have inner : memberDepth e.versionedPayload.entries ≤ levels := Nat.le_of_succ_le_succ versions
  have fields : Record.Reads (levels + 1) _ _ _ := .make NewEvent.mk
  have fields := fields.required "tenant_id" (reads_id e.tenantId) (by simp)
  have fields := fields.required "consumer_id" (reads_id e.consumerId) (by simp)
  have fields := fields.required "topic_name" (reads_text e.topicName) (by simp)
  have fields := fields.required "versioned_payload" (reads_payloads payloads inner) (by simp)
  have fields := fields.defaulted "headers" (reads_texts e.headers) .empty (by simp)
  exact fields.decoder false

end NewEvent

section Directory

variable {levels : Nat}

theorem Subscription.reads (s : Subscription) : decoder.Reads (levels + 1) s.toJson s := by
  have fields : Record.Reads levels _ _ _ := .make Subscription.mk
  have fields := fields.required "id" (reads_id s.id) (by simp)
  have fields := fields.required "tenant_id" (reads_id s.tenantId) (by simp)
  have fields := fields.required "consumer_id" (reads_id s.consumerId) (by simp)
  have fields := fields.required "topic_id" (reads_id s.topicId) (by simp)
  have fields := fields.required "url" (reads_text s.url) (by simp)
  have fields := fields.required "created_at" (reads_instant s.createdAt) (by simp)
  have fields := fields.required "updated_at" (reads_instant s.updatedAt) (by simp)
  have fields := fields.required "is_active" (reads_bool s.isActive) (by simp)
  have fields := fields.required "is_failing" (reads_bool s.isFailing) (by simp)
  simp only [List.nil_append, List.cons_append] at fields
  exact fields.decoder false

theorem Consumer.reads (c : Consumer) : decoder.Reads (levels + 1) c.toJson c := by
  have fields : Record.Reads levels _ _ _ := .make Consumer.mk
  have fields := fields.required "id" (reads_id c.id) (by simp)
  have fields := fields.required "tenant_id" (reads_id c.tenantId) (by simp)
  have fields := fields.required "external_id" (reads_text c.externalId) (by simp)
  have fields := fields.required "version_id" (reads_id c.versionId) (by simp)
  have fields := fields.required "created_at" (reads_instant c.createdAt) (by simp)
  exact fields.decoder false

theorem Topic.reads (t : Topic) : decoder.Reads (levels + 1) t.toJson t := by
  have fields : Record.Reads levels _ _ _ := .make Topic.mk
  have fields := fields.required "id" (reads_id t.id) (by simp)
  have fields := fields.required "tenant_id" (reads_id t.tenantId) (by simp)
  have fields := fields.required "name" (reads_text t.name) (by simp)
  have fields := fields.required "created_at" (reads_instant t.createdAt) (by simp)
  exact fields.decoder false

theorem Version.reads (v : Version) : decoder.Reads (levels + 1) v.toJson v := by
  have fields : Record.Reads levels _ _ _ := .make Version.mk
  have fields := fields.required "id" (reads_id v.id) (by simp)
  have fields := fields.required "tenant_id" (reads_id v.tenantId) (by simp)
  have fields := fields.required "version" (reads_text v.name) (by simp)
  have fields := fields.required "created_at" (reads_instant v.createdAt) (by simp)
  exact fields.decoder false

theorem ClientSettings.reads (s : ClientSettings) : decoder.Reads (levels + 2) s.toJson s := by
  have fields : Record.Reads (levels + 1) _ _ _ := .make ClientSettings.mk
  have fields := fields.required "timeout" (reads_duration s.timeout) (by simp)
  have fields := fields.required "user_agent" (reads_text s.userAgent) (by simp)
  exact fields.decoder false

end Directory

namespace Json

/-- Every text of a value that fits, with the members of its objects in any order, is decoded to
what `back` makes of the value, and is a text of that too. -/
def RoundTrips {α : Type} (write : α → Json) (read : Decoder α) (fits : α → Prop) (back : α → α) :
    Prop :=
  ∀ a, fits a → ∀ w, (write a).Alike w →
    decodeText read w.text = .ok (back a) ∧ (write (back a)).Alike w

theorem RoundTrips.of_reads {α : Type} {write : α → Json} {read : Decoder α} {fits : α → Prop}
    {back : α → α} (same : ∀ a, write (back a) = write a)
    (reads : ∀ a, fits a → read.Reads maxLevels (write a) (back a)) :
    RoundTrips write read fits back := by
  intro a fit w alike
  have reads := reads a fit
  refine ⟨?_, same a ▸ alike⟩
  rw [decodeText_text (reads.isExact.alike alike), reads.read w alike]

end Json

/-- The body can be written, and the text nests no deeper than is read. -/
structure Event.Fits (e : Event) : Prop where
  payload : ∀ v ∈ e.requestBody, v.IsPayload
  within : depth e.toJson ≤ maxLevels

structure NewEvent.Fits (e : NewEvent) : Prop where
  payloads : ∀ p ∈ e.versionedPayload.entries, p.2.IsPayload
  within : depth e.toJson ≤ maxLevels

/-- Every entity is read back from its JSON, with the keys of the objects in any order, and what is
read is written as the same JSON again. Only an event with the body `null` comes back without one. -/
theorem json_loses_nothing :
    RoundTrips Event.toJson Event.decoder Event.Fits Event.readBack ∧
      (∀ e : Event, e.requestBody ≠ some .null → e.readBack = e) ∧
      (∀ e : Event, e.requestBody = some .null → e.readBack = { e with requestBody := none }) ∧
      RoundTrips NewEvent.toJson NewEvent.decoder NewEvent.Fits id ∧
      RoundTrips Subscription.toJson Subscription.decoder (fun _ => True) id ∧
      RoundTrips Consumer.toJson Consumer.decoder (fun _ => True) id ∧
      RoundTrips Topic.toJson Topic.decoder (fun _ => True) id ∧
      RoundTrips Version.toJson Version.decoder (fun _ => True) id ∧
      (∀ e : Entity, RoundTrips (fun i : Id e => .string i.text) Json.id (fun _ => True) id) ∧
      RoundTrips ClientSettings.toJson ClientSettings.decoder (fun _ => True) id := by
  refine ⟨.of_reads Event.toJson_readBack fun e fits => e.reads fits.payload fits.within,
    fun e => Event.readBack_of_ne, fun e => Event.readBack_of_null,
    .of_reads (fun _ => rfl) fun e fits => e.reads fits.payloads fits.within,
    .of_reads (fun _ => rfl) fun s _ => s.reads, .of_reads (fun _ => rfl) fun c _ => c.reads,
    .of_reads (fun _ => rfl) fun t _ => t.reads, .of_reads (fun _ => rfl) fun v _ => v.reads,
    fun e => .of_reads (fun _ => rfl) fun i _ => reads_id i,
    .of_reads (fun _ => rfl) fun s _ => s.reads⟩

def Event.specimen : Event where
  id := default
  state := .backoff
  tenantId := default
  consumerId := default
  topicId := default
  versionId := default
  subscriptionId := default
  tryCount := Int32.minValue
  requestHeaders := some .empty
  requestBody := some (.array
    [.null, .object [("k", .number (.negative Int64.minValue)), ("l", .string "\n")]])
  url := none
  responseHeaders := none
  responseBody := some ""
  responseCode := some Int32.maxValue
  durationMillis := none
  createdAt := { Instant.last with nano := 1999999999, nano_lt := by decide, leap_at := by decide }
  updatedAt := .last
  deliveredAt := none
  partitionDate := .last

theorem json_loses_nothing_specimen :
    Event.specimen.Fits ∧
      decodeText Event.decoder Event.specimen.toJson.text = .ok Event.specimen := by
  have payload : ∀ v ∈ Event.specimen.requestBody, v.IsPayload := by
    rintro v ⟨⟩
    refine ⟨.array ?_, .array ?_⟩
    · refine List.forall_mem_cons.mpr ⟨.null, List.forall_mem_cons.mpr ⟨.object ?_, nofun⟩⟩
      exact List.forall_mem_cons.mpr ⟨.negative (by decide),
        List.forall_mem_cons.mpr ⟨.string _, nofun⟩⟩
    · refine List.forall_mem_cons.mpr ⟨.null,
        List.forall_mem_cons.mpr ⟨.object (by decide) ?_, nofun⟩⟩
      exact List.forall_mem_cons.mpr ⟨.number _, List.forall_mem_cons.mpr ⟨.string _, nofun⟩⟩
  have fits : Event.specimen.Fits := ⟨payload, by decide⟩
  have read := (json_loses_nothing.1 _ fits _ (.refl _)).1
  rw [Event.readBack_of_ne (by simp [Event.specimen])] at read
  exact ⟨fits, read⟩

end Courier
