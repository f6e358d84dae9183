import Courier.Delivery.Response
import Courier.Proofs.Data.Dict
import Courier.Proofs.Text.Utf8Parts

/-!
# The texts kept of a response

A body is cut before it is read. So a character may be cut apart, and then U+FFFD stands in its
place, and other bytes that are no text may be kept as more of them: `keepsText_iff` says when the
text that is kept is within the limit and says what the body says. The NUL character, which not
every store can hold, never comes from a header, and from a body exactly if it is among the bytes
that are kept: `nul_only_from_a_body`.
-/

namespace Courier

open Text.Utf8 (encode size IsCut ReadAs readOfCut replacement)

namespace Response

/-! ### The body -/

theorem readAs_keptBody (bytes : List UInt8) :
    ∃ growth, ReadAs (bytes.take maxBodySize) (keptBody bytes).toList growth :=
  Text.Utf8.readAs_decode _

theorem keptBody_size (bytes : List UInt8) :
    (keptBody bytes).utf8ByteSize ≤ 3 * min bytes.length maxBodySize := by
  have bound := Text.Utf8.utf8ByteSize_decode (bytes.take maxBodySize)
  rwa [List.length_take, Nat.min_comm] at bound

theorem keptBody_of_cut {kept rest : List Char} (cut : IsCut maxBodySize kept rest) :
    keptBody (encode (String.ofList (kept ++ rest))) =
      String.ofList (readOfCut maxBodySize kept rest) := by
  rw [keptBody, Text.Utf8.decode, Text.Utf8.encode_eq, String.toList_ofList, cut.decodeFrom]

theorem keptBody_of_text (s : String) :
    ∃ kept rest, s = String.ofList (kept ++ rest) ∧ IsCut maxBodySize kept rest ∧
      keptBody (encode s) = String.ofList (readOfCut maxBodySize kept rest) := by
  obtain ⟨kept, rest, split, cut⟩ := Text.Utf8.exists_cut maxBodySize s.toList
  have text : s = String.ofList (kept ++ rest) := by rw [← split, String.ofList_toList]
  exact ⟨kept, rest, text, cut, text ▸ keptBody_of_cut cut⟩

/-- What is kept of a body is within the limit, and of a text it is what the text begins with, or
all of it if that is not too long. -/
structure KeepsText (bytes : List UInt8) : Prop where
  within : (keptBody bytes).utf8ByteSize ≤ maxBodySize
  beginning : ∀ s, encode s = bytes → (keptBody bytes).toList <+: s.toList
  whole : ∀ s, encode s = bytes → bytes.length ≤ maxBodySize → keptBody bytes = s

theorem size_le_of_beginning {kept cs : List Char} (begins : kept <+: cs) :
    size kept ≤ size cs := by
  obtain ⟨rest, rfl⟩ := begins
  rw [Text.Utf8.size_append]
  exact Nat.le_add_right _ _

/-- Characters that a text begins with take up what is kept of it. -/
theorem KeepsText.exists_cut {s : String} (keeps : KeepsText (encode s)) :
    ∃ kept, kept <+: s.toList ∧ size kept = min s.utf8ByteSize maxBodySize := by
  have within := keeps.within
  have begins := keeps.beginning s rfl
  have most := size_le_of_beginning begins
  -- What is kept takes up no less than what is read, since marks only add to it.
  obtain ⟨growth, read⟩ := readAs_keptBody (encode s)
  obtain ⟨least, -⟩ := read.size
  rw [List.length_take, Text.Utf8.length_encode] at least
  rw [Text.Utf8.utf8ByteSize_eq] at within
  refine ⟨_, begins, ?_⟩
  rw [Text.Utf8.utf8ByteSize_eq s] at least ⊢
  omega

/-- Characters that take up what is kept of a text are kept. -/
theorem keptBody_of_beginning {s : String} {kept : List Char} (begins : kept <+: s.toList)
    (fits : size kept = min s.utf8ByteSize maxBodySize) :
    keptBody (encode s) = String.ofList kept := by
  obtain ⟨rest, split⟩ := begins
  have text : s = String.ofList (kept ++ rest) := by rw [split, String.ofList_toList]
  have total : s.utf8ByteSize = size kept + size rest := by
    rw [text, Text.Utf8.utf8ByteSize_ofList, Text.Utf8.size_append]
  have full : rest = [] ∨ size kept = maxBodySize := by
    cases rest with
    | nil => exact .inl rfl
    | cons c rest =>
      have some := c.utf8Size_pos
      rw [Text.Utf8.size_cons] at total
      omega
  have cut : IsCut maxBodySize kept rest := by
    refine ⟨by omega, fun c next => ?_⟩
    obtain rfl | full := full
    · cases next
    · rw [full]
      exact Nat.lt_add_of_pos_right c.utf8Size_pos
  rw [text, keptBody_of_cut cut, readOfCut, if_pos full]

theorem keptBody_short {s : String} (short : s.utf8ByteSize ≤ maxBodySize) :
    keptBody (encode s) = s := by
  have fits : size s.toList = min s.utf8ByteSize maxBodySize := by
    rw [← Text.Utf8.utf8ByteSize_eq, Nat.min_eq_left short]
  rw [keptBody_of_beginning List.prefix_rfl fits, String.ofList_toList]

/-- Any bytes are read in parts, of which broken ones may grow as they are marked. The text that is
kept is within the limit exactly if there is room for that, and it says what a text says exactly if
no character is cut apart. -/
theorem keepsText_iff (bytes : List UInt8) :
    ∃ growth, ReadAs (bytes.take maxBodySize) (keptBody bytes).toList growth ∧
      (KeepsText bytes ↔ min bytes.length maxBodySize + growth ≤ maxBodySize ∧
        ∀ s, encode s = bytes →
          ∃ kept, kept <+: s.toList ∧ size kept = min s.utf8ByteSize maxBodySize) := by
  obtain ⟨growth, read⟩ := readAs_keptBody bytes
  have total : (keptBody bytes).utf8ByteSize = min bytes.length maxBodySize + growth := by
    rw [Text.Utf8.utf8ByteSize_eq, read.size.1, List.length_take, Nat.min_comm]
  refine ⟨growth, read, ?_⟩
  rw [← total]
  constructor
  · intro keeps
    refine ⟨keeps.within, ?_⟩
    rintro s rfl
    exact keeps.exists_cut
  · rintro ⟨within, cuts⟩
    refine ⟨within, ?_, ?_⟩
    · rintro s rfl
      obtain ⟨kept, begins, fits⟩ := cuts s rfl
      rwa [keptBody_of_beginning begins fits, String.toList_ofList]
    · rintro s rfl short
      exact keptBody_short (Text.Utf8.length_encode s ▸ short)

section Apart

variable {kept : List Char} {c : Char} (fits : size kept < maxBodySize)
  (apart : maxBodySize < size kept + c.utf8Size)
include fits apart

theorem keptBody_apart :
    keptBody (encode (String.ofList (kept ++ [c]))) = String.ofList (kept ++ [replacement]) := by
  have cut : IsCut maxBodySize kept [c] :=
    ⟨Nat.le_of_lt fits, fun d next => Option.some.inj next ▸ apart⟩
  rw [keptBody_of_cut cut, readOfCut, if_neg]
  simpa using Nat.ne_of_lt fits

theorem keptBody_not_beginning (other : c ≠ replacement) :
    ¬ (keptBody (encode (String.ofList (kept ++ [c])))).toList <+: kept ++ [c] := by
  rw [keptBody_apart fits apart, String.toList_ofList, List.prefix_append_right_inj]
  simpa using other.symm

theorem keptBody_size_apart :
    (keptBody (encode (String.ofList (kept ++ [c])))).utf8ByteSize = size kept + 3 := by
  rw [keptBody_apart fits apart, Text.Utf8.utf8ByteSize_ofList, Text.Utf8.size_append]
  rfl

end Apart

/-- Characters that take up one byte less than is kept. -/
def almostAll : List Char := 'a' :: List.replicate 32767 'é'

theorem size_almostAll : size almostAll = 65535 := by
  rw [almostAll, Text.Utf8.size_cons, Text.Utf8.size_replicate]
  rfl

theorem cut_apart_is_corrupted :
    ¬ (keptBody (encode (String.ofList (almostAll ++ ['é'])))).utf8ByteSize ≤ maxBodySize ∧
      ¬ (keptBody (encode (String.ofList (almostAll ++ ['é'])))).toList <+: almostAll ++ ['é'] := by
  have fits : size almostAll < maxBodySize := by
    rw [size_almostAll]
    decide
  have apart : maxBodySize < size almostAll + 'é'.utf8Size := by
    rw [size_almostAll]
    decide
  refine ⟨?_, keptBody_not_beginning fits apart (by decide)⟩
  rw [keptBody_size_apart fits apart, size_almostAll]
  decide

/-! ### The NUL character -/

def nul : Char := Char.ofNat 0

theorem nul_mem_decode (bytes : List UInt8) :
    nul ∈ (Text.Utf8.decode bytes).toList ↔ 0 ∈ bytes :=
  Text.Utf8.ascii_mem_decode (by decide) bytes

theorem nul_not_mem_plain {bytes : List UInt8} (plain : bytes.all isPlain = true) :
    nul ∉ (Text.Utf8.decode bytes).toList := by
  rw [nul_mem_decode]
  intro mem
  have shown : isPlain 0 = true := List.all_eq_true.mp plain 0 mem
  exact absurd shown (by decide)

theorem nul_not_mem_token {name : String} (token : Header.isToken name = true) :
    nul ∉ name.toList := by
  intro mem
  have chars : name.toList.all Header.isTokenChar = true := (Bool.and_eq_true _ _ ▸ token).2
  have shown : Header.isTokenChar nul = true := List.all_eq_true.mp chars nul mem
  exact absurd shown (by decide)

theorem nul_not_mem_keptHeaders {headers : List (String × List UInt8)}
    (named : ∀ h ∈ headers, Header.isToken h.1 = true) :
    ∀ h ∈ (keptHeaders headers).entries, nul ∉ h.1.toList ∧ nul ∉ h.2.toList := by
  intro h mem
  obtain ⟨received, within, rfl⟩ := List.mem_map.mp (Dict.mem_of_mem_ofList mem)
  obtain ⟨within, plain⟩ := List.mem_filter.mp within
  exact ⟨nul_not_mem_token (named received within), nul_not_mem_plain plain⟩

def Named (e : Exchange) : Prop :=
  ∀ status headers body, e.reception = .head status headers body →
    ∀ h ∈ headers, Header.isToken h.1 = true

theorem nul_not_mem_headers {e : Exchange} (named : Named e) (r : DeliveryRequest) :
    ∀ h ∈ (ofExchange r e).headers.entries, nul ∉ h.1.toList ∧ nul ∉ h.2.toList := by
  obtain ⟨reception, took⟩ := e
  cases reception with
  | failed why => exact nofun
  | head status headers body =>
    have kept : (ofExchange r ⟨.head status headers body, took⟩).headers = keptHeaders headers := by
      simp only [ofExchange, capture]
      split
      · rfl
      · cases body <;> rfl
    rw [kept]
    exact nul_not_mem_keptHeaders (named status headers body rfl)

theorem body_eq_some_iff {r : DeliveryRequest} {e : Exchange} {text : String} :
    (ofExchange r e).body = some text ↔
      ∃ status headers bytes, e.reception = .head status headers (.whole bytes) ∧ status ≠ 429 ∧
        keptBody bytes = text := by
  obtain ⟨reception, took⟩ := e
  constructor
  · intro kept
    cases reception with
    | failed why => exact nomatch kept
    | head status headers body =>
      simp only [ofExchange, capture] at kept
      split at kept
      · exact nomatch kept
      · next fast =>
        cases body with
        | whole bytes => exact ⟨status, headers, bytes, rfl, fast, Option.some.inj kept⟩
        | brokenOff => exact nomatch kept
        | late => exact nomatch kept
  · rintro ⟨status, headers, bytes, rfl, fast, rfl⟩
    simp [ofExchange, capture, fast]

theorem nul_mem_body_iff (r : DeliveryRequest) (e : Exchange) :
    (∃ text ∈ (ofExchange r e).body, nul ∈ text.toList) ↔
      ∃ status headers bytes, e.reception = .head status headers (.whole bytes) ∧ status ≠ 429 ∧
        0 ∈ bytes.take maxBodySize := by
  constructor
  · rintro ⟨text, kept, mem⟩
    obtain ⟨status, headers, bytes, came, fast, rfl⟩ := body_eq_some_iff.mp kept
    exact ⟨status, headers, bytes, came, fast, (nul_mem_decode _).mp mem⟩
  · rintro ⟨status, headers, bytes, came, fast, mem⟩
    have kept := body_eq_some_iff (r := r).mpr ⟨status, headers, bytes, came, fast, rfl⟩
    exact ⟨keptBody bytes, kept, (nul_mem_decode _).mpr mem⟩

end Response

namespace Client

variable {σ : Type} (c : Client) (send : Post → StateM σ Exchange) (r : DeliveryRequest) (world : σ)

theorem deliver_run :
    ((c.deliver send r).run world).1 =
      match r.post? c.settings with
      | some post => Response.ofExchange r ((send post).run world).1
      | none => Response.ofExchange r ⟨.failed unsendable, .zero⟩ := by
  unfold deliver
  cases r.post? c.settings <;> rfl

/-- A response of which the texts are kept holds no NUL in its headers, and in its body exactly if
a whole body came with one among the bytes that are kept, without being asked to slow down. -/
theorem nul_only_from_a_body
    (named : ∀ post world, Response.Named ((send post).run world).1) :
    (∀ h ∈ ((c.deliver send r).run world).1.headers.entries,
        Response.nul ∉ h.1.toList ∧ Response.nul ∉ h.2.toList) ∧
      ((∃ text ∈ ((c.deliver send r).run world).1.body, Response.nul ∈ text.toList) ↔
        ∃ post status headers bytes, r.post? c.settings = some post ∧
          ((send post).run world).1.reception = .head status headers (.whole bytes) ∧
          status ≠ 429 ∧ 0 ∈ bytes.take Response.maxBodySize) := by
  rw [deliver_run]
  cases sent : r.post? c.settings with
  | none =>
    refine ⟨nofun, ?_⟩
    rw [Response.nul_mem_body_iff]
    simp
  | some post =>
    refine ⟨Response.nul_not_mem_headers (named post world) r, ?_⟩
    rw [Response.nul_mem_body_iff]
    simp

def sendNul (_ : Post) : StateM Unit Exchange :=
  pure ⟨.head 200 [("server", [110])] (.whole [111, 107, 0]), .zero⟩

def patient : Client := ⟨⟨.ofMillis 10000, "courier"⟩, by decide, by decide⟩

def call : DeliveryRequest := ⟨default, "http://[::1]/", .empty, "x"⟩

theorem sendNul_named (post : Post) (world : Unit) :
    Response.Named ((sendNul post).run world).1 := by
  intro status headers body came h mem
  cases came
  obtain rfl := List.mem_singleton.mp mem
  decide

theorem nul_only_from_a_body_sendNul :
    (∀ post world, Response.Named ((sendNul post).run world).1) ∧
      ∀ h ∈ ((patient.deliver sendNul call).run ()).1.headers.entries,
        Response.nul ∉ h.1.toList ∧ Response.nul ∉ h.2.toList :=
  ⟨sendNul_named, (nul_only_from_a_body patient sendNul call () sendNul_named).1⟩

theorem sendNul_is_kept :
    ((patient.deliver sendNul call).run ()).1.body = some "ok\x00" := by
  decide +kernel

end Client

end Courier
