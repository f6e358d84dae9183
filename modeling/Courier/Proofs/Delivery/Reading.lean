import Courier.Proofs.Delivery.KeptText
import Courier.Proofs.Text.Search

/-!
# What an exchange is read as

A failed exchange leaves a state that its causes tell, by their kinds or by what they say. A head
that came leaves its status, its headers and perhaps a body. `Response.Reads` says what is kept of
any exchange without reading it, and `Response.reads` that just this is kept.
-/

namespace Courier

/-! ### What causes say -/

namespace Outcome

/-- A phrase that cannot be put together from two messages of a chain. -/
def IsPhrase (w : String) : Prop := ':' ∉ w.toList ∧ w.toList ≠ [] ∧ w.toList.head? ≠ some ' '

instance (w : String) : Decidable (IsPhrase w) :=
  inferInstanceAs (Decidable (':' ∉ w.toList ∧ w.toList ≠ [] ∧ w.toList.head? ≠ some ' '))

theorem mentions_iff {words : List String} {text : String} :
    mentions words text = true ↔ ∃ w ∈ words, w.toList <:+: text.toList := by
  simp only [mentions, List.any_eq_true, Text.occursIn_iff]

theorem infix_append_cons_iff {α : Type} {c : α} {w s t : List α} (absent : c ∉ w)
    (nonempty : w ≠ []) : w <:+: s ++ c :: t ↔ w <:+: s ∨ w <:+: t := by
  have elsewhere : ¬ w <+: c :: t := by
    rw [List.prefix_cons_iff]
    rintro (empty | ⟨rest, rfl, -⟩)
    · exact nonempty empty
    · exact absent List.mem_cons_self
  rw [List.infix_append_iff_ne_nil, List.infix_cons_iff, or_iff_right elsewhere]
  refine or_congr_right (or_iff_left ?_)
  rintro ⟨front, back, -, some, rfl, -, begins⟩
  obtain empty | ⟨rest, rfl, -⟩ := List.prefix_cons_iff.mp begins
  · exact some empty
  · exact absent (List.mem_append_right _ List.mem_cons_self)

theorem IsPhrase.infix_separated {w : String} (phrase : IsPhrase w) (s t : List Char) :
    w.toList <:+: s ++ ':' :: ' ' :: t ↔ w.toList <:+: s ∨ w.toList <:+: t := by
  obtain ⟨absent, nonempty, unspaced⟩ := phrase
  have elsewhere : ¬ w.toList <+: ' ' :: t := by
    rw [List.prefix_cons_iff]
    rintro (empty | ⟨rest, spaced, -⟩)
    · exact nonempty empty
    · exact unspaced (spaced ▸ rfl)
  rw [infix_append_cons_iff absent nonempty, List.infix_cons_iff, or_iff_right elsewhere]

/-- A phrase is found in a chain exactly if a message has it. -/
theorem IsPhrase.infix_chain {w : String} (phrase : IsPhrase w) (causes : List Cause) :
    w.toList <:+: (chainText causes).toList ↔
      ∃ c ∈ causes, w.toList <:+: (Text.lowerCase c.message).toList := by
  have nonempty : w ≠ "" := fun empty => phrase.2.1 (empty ▸ rfl)
  unfold chainText
  induction causes with
  | nil => simp [nonempty]
  | cons c rest ih =>
    simp only [List.mem_cons, exists_eq_or_imp]
    cases rest with
    | nil => simp
    | cons d rest =>
      rw [List.map_cons, List.map_cons, String.intercalate_cons_cons, String.toList_append,
        String.toList_append, List.append_assoc]
      exact (phrase.infix_separated _ _).trans (or_congr_right ih)

end Outcome

namespace TransportFailure

variable {f : TransportFailure} {s : DeliveryState}

def HasKind (f : TransportFailure) (kinds : List IoFault) : Prop :=
  ∃ c ∈ f.causes, ∃ kind ∈ kinds, c.io = some kind

/-- A cause says one of these words, in whatever case. -/
def Says (f : TransportFailure) (words : List String) : Prop :=
  ∃ c ∈ f.causes, ∃ w ∈ words, w.toList <:+: (Text.lowerCase c.message).toList

instance (f : TransportFailure) (kinds : List IoFault) : Decidable (f.HasKind kinds) :=
  inferInstanceAs (Decidable (∃ c ∈ f.causes, ∃ kind ∈ kinds, c.io = some kind))

instance (f : TransportFailure) (words : List String) : Decidable (f.Says words) :=
  inferInstanceAs (Decidable (∃ c ∈ f.causes, ∃ w ∈ words,
    w.toList <:+: (Text.lowerCase c.message).toList))

abbrev IsLate (f : TransportFailure) : Prop := f.HasKind [.timedOut]

abbrev IsClosure (f : TransportFailure) : Prop :=
  f.HasKind [.connectionReset, .connectionAborted, .unexpectedEnd, .brokenPipe]

abbrev SaysUnresolved (f : TransportFailure) : Prop :=
  f.Says ["dns error", "failed to lookup address", "name or service not known", "no such host"]

abbrev SaysInsecure (f : TransportFailure) : Prop := f.Says ["certificate", "tls", "handshake"]

abbrev SaysClosed (f : TransportFailure) : Prop :=
  f.Says ["connection closed before message completed", "incomplete message", "connection reset"]

/-- What a failure tells: the kinds of its causes come first, and then what they say. -/
inductive Tells (f : TransportFailure) : DeliveryState → Prop where
  | deadline (late : f.IsLate) : Tells f .timeout
  | closure (early : ¬ f.IsLate) (closed : f.IsClosure) : Tells f .timeout
  | unresolved (early : ¬ f.IsLate) (opened : ¬ f.IsClosure) (told : f.SaysUnresolved) :
      Tells f .unknownHost
  | insecure (early : ¬ f.IsLate) (opened : ¬ f.IsClosure) (resolved : ¬ f.SaysUnresolved)
      (told : f.SaysInsecure) : Tells f .tlsError
  | closed (early : ¬ f.IsLate) (opened : ¬ f.IsClosure) (resolved : ¬ f.SaysUnresolved)
      (secure : ¬ f.SaysInsecure) (told : f.SaysClosed) : Tells f .timeout
  | other (early : ¬ f.IsLate) (opened : ¬ f.IsClosure) (resolved : ¬ f.SaysUnresolved)
      (secure : ¬ f.SaysInsecure) (whole : ¬ f.SaysClosed) : Tells f .other

theorem mentions_chainText_iff (f : TransportFailure) (words : List String)
    (phrases : ∀ w ∈ words, Outcome.IsPhrase w) :
    Outcome.mentions words (Outcome.chainText f.causes) = true ↔ f.Says words := by
  rw [Outcome.mentions_iff]
  constructor
  · rintro ⟨w, word, occurs⟩
    obtain ⟨c, cause, told⟩ := ((phrases w word).infix_chain f.causes).mp occurs
    exact ⟨c, cause, w, word, told⟩
  · rintro ⟨c, cause, w, word, told⟩
    exact ⟨w, word, ((phrases w word).infix_chain f.causes).mpr ⟨c, cause, told⟩⟩

theorem any_isClosure_iff (f : TransportFailure) :
    f.causes.any Cause.isClosure = true ↔ f.IsClosure := by
  have kinds (c : Cause) : c.isClosure = true ↔
      ∃ kind ∈ [IoFault.connectionReset, .connectionAborted, .unexpectedEnd, .brokenPipe],
        c.io = some kind := by
    unfold Cause.isClosure
    rcases c.io with _ | kind
    · simp
    · cases kind <;> simp
  rw [List.any_eq_true]
  exact exists_congr fun c => and_congr_right fun _ => kinds c

theorem tells_state (f : TransportFailure) : f.Tells (Outcome.ofFailure f).state := by
  have late : f.causes.any (·.io = some .timedOut) = true ↔ f.IsLate := by simp [IsLate, HasKind]
  have closure := f.any_isClosure_iff
  have unresolved := f.mentions_chainText_iff Outcome.unresolvedWords (by decide)
  have insecure := f.mentions_chainText_iff Outcome.tlsWords (by decide)
  have closed := f.mentions_chainText_iff Outcome.closedWords (by decide)
  unfold Outcome.ofFailure
  by_cases isLate : f.IsLate
  · rw [if_pos (late.mpr isLate)]
    exact .deadline isLate
  rw [if_neg (mt late.mp isLate)]
  by_cases isClosure : f.IsClosure
  · rw [if_pos (closure.mpr isClosure)]
    exact .closure isLate isClosure
  rw [if_neg (mt closure.mp isClosure)]
  dsimp only
  by_cases host : f.SaysUnresolved
  · rw [if_pos (unresolved.mpr host)]
    exact .unresolved isLate isClosure host
  rw [if_neg (mt unresolved.mp host)]
  by_cases tls : f.SaysInsecure
  · rw [if_pos (insecure.mpr tls)]
    exact .insecure isLate isClosure host tls
  rw [if_neg (mt insecure.mp tls)]
  by_cases cut : f.SaysClosed
  · rw [if_pos (closed.mpr cut)]
    exact .closed isLate isClosure host tls cut
  rw [if_neg (mt closed.mp cut)]
  split
  · exact .other isLate isClosure host tls cut
  · exact .other isLate isClosure host tls cut

theorem Tells.unique {t : DeliveryState} (told : f.Tells s) (again : f.Tells t) : s = t := by
  cases told <;> cases again <;> trivial

theorem status?_ofFailure (f : TransportFailure) : (Outcome.ofFailure f).status? = none := by
  by_contra answered
  have told := f.tells_state
  obtain delivered | backoff | httpError :=
    Outcome.status?_isSome_iff.mp (Option.isSome_iff_ne_none.mpr answered)
  · rw [delivered] at told
    cases told
  · rw [backoff] at told
    cases told
  · rw [httpError] at told
    cases told

end TransportFailure

/-! ### Headers -/

def IsPlainText (bytes : List UInt8) : Prop := ∀ b ∈ bytes, b = 9 ∨ 32 ≤ b ∧ b < 127

instance (bytes : List UInt8) : Decidable (IsPlainText bytes) :=
  inferInstanceAs (Decidable (∀ b ∈ bytes, b = 9 ∨ 32 ≤ b ∧ b < 127))

/-- The last plain value under the name is this text, character for byte. -/
def LastPlain (headers : List (String × List UInt8)) (name value : String) : Prop :=
  ∃ earlier bytes later, headers = earlier ++ (name, bytes) :: later ∧ IsPlainText bytes ∧
    value.toList = bytes.map (fun b => Char.ofNat b.toNat) ∧
    ∀ bytes', (name, bytes') ∈ later → ¬ IsPlainText bytes'

theorem lastPlain_concat {headers : List (String × List UInt8)} {last name value : String}
    {given : List UInt8} :
    LastPlain (headers ++ [(last, given)]) name value ↔
      if last = name ∧ IsPlainText given then value.toList = given.map fun b => Char.ofNat b.toNat
      else LastPlain headers name value := by
  constructor
  · rintro ⟨earlier, bytes, later, split, plain, spelled, none⟩
    obtain rfl | ⟨before, h, rfl⟩ := List.eq_nil_or_concat later
    · obtain ⟨-, same⟩ := List.append_inj' split rfl
      cases same
      rwa [if_pos ⟨rfl, plain⟩]
    · rw [List.concat_eq_append, ← List.cons_append, ← List.append_assoc] at split
      obtain ⟨rfl, same⟩ := List.append_inj' split rfl
      cases same
      have odd : ¬ (last = name ∧ IsPlainText given) := by
        rintro ⟨rfl, counts⟩
        exact none given (by simp) counts
      rw [if_neg odd]
      exact ⟨earlier, bytes, before, rfl, plain, spelled, fun _ mem => none _ (by simp [mem])⟩
  · split
    · next counts =>
      obtain ⟨rfl, plain⟩ := counts
      exact fun spelled => ⟨headers, given, [], rfl, plain, spelled, nofun⟩
    · next odd =>
      rintro ⟨earlier, bytes, later, rfl, plain, spelled, none⟩
      refine ⟨earlier, bytes, later ++ [(last, given)], by simp, plain, spelled, ?_⟩
      intro bytes' mem counts
      obtain before | final := List.mem_append.mp mem
      · exact none bytes' before counts
      · cases List.mem_singleton.mp final
        exact odd ⟨rfl, counts⟩

/-- Under each name the last plain value is kept. -/
def KeepsHeaders (headers : List (String × List UInt8)) (kept : Dict String) : Prop :=
  ∀ name value, kept.get? name = some value ↔ LastPlain headers name value

namespace Text.Utf8

theorem toList_decode_ascii {bytes : List UInt8} (ascii : ∀ b ∈ bytes, b.toNat < 0x80) :
    (decode bytes).toList = bytes.map fun b => Char.ofNat b.toNat := by
  rw [decode, String.toList_ofList]
  induction bytes with
  | nil => rfl
  | cons b rest ih =>
    have first : b.toNat < 0x80 := ascii b List.mem_cons_self
    have others := ih fun c mem => ascii c (List.mem_cons_of_mem _ mem)
    show (begin b.toNat).1 ++ decodeFrom (begin b.toNat).2 rest = _
    simp only [begin, if_pos first, List.map_cons, others]
    rfl

end Text.Utf8

namespace Response

theorem isPlain_iff {b : UInt8} : isPlain b = true ↔ b = 9 ∨ 32 ≤ b ∧ b < 127 := by
  have tab : b = 9 ↔ b.toNat = 9 := UInt8.toNat_inj.symm
  rw [tab, UInt8.le_iff_toNat_le, UInt8.lt_iff_toNat_lt]
  show _ ↔ b.toNat = 9 ∨ 32 ≤ b.toNat ∧ b.toNat < 127
  simp only [isPlain, Bool.or_eq_true, Bool.and_eq_true, decide_eq_true_eq]
  exact or_comm

theorem all_isPlain_iff {bytes : List UInt8} :
    bytes.all isPlain = true ↔ IsPlainText bytes := by
  rw [List.all_eq_true]
  exact forall₂_congr fun _ _ => isPlain_iff

theorem toList_decode_plain {bytes : List UInt8} (plain : IsPlainText bytes) :
    (Text.Utf8.decode bytes).toList = bytes.map fun b => Char.ofNat b.toNat := by
  apply Text.Utf8.toList_decode_ascii
  intro b mem
  rcases plain b mem with rfl | ⟨-, small⟩
  · decide
  · exact Nat.lt_succ_of_lt (UInt8.lt_iff_toNat_lt.mp small)

theorem keptHeaders_concat (headers : List (String × List UInt8)) (h : String × List UInt8) :
    keptHeaders (headers ++ [h]) =
      if h.2.all isPlain then (keptHeaders headers).insert h.1 (Text.Utf8.decode h.2)
      else keptHeaders headers := by
  unfold keptHeaders Dict.ofList
  split
  · next plain => simp [List.filter_append, plain]
  · next odd => simp [List.filter_append, odd]

theorem keptHeaders_keeps (headers : List (String × List UInt8)) :
    KeepsHeaders headers (keptHeaders headers) := by
  -- The last header decides, so the headers are taken off from the end.
  induction headers using List.reverseRecOn with
  | nil =>
    intro name value
    refine ⟨nofun, ?_⟩
    rintro ⟨earlier, bytes, later, none, -⟩
    simp at none
  | append_singleton headers h ih =>
    obtain ⟨last, given⟩ := h
    intro name value
    rw [keptHeaders_concat, lastPlain_concat]
    by_cases plain : IsPlainText given
    · rw [if_pos (all_isPlain_iff.mpr plain), Dict.get?_insert]
      by_cases same : last = name
      · rw [if_pos same, if_pos ⟨same, plain⟩, ← toList_decode_plain plain, Option.some.injEq,
          String.toList_inj]
        exact eq_comm
      · rw [if_neg same, if_neg fun both => same both.1]
        exact ih name value
    · rw [if_neg (mt all_isPlain_iff.mp plain), if_neg fun both => plain both.2]
      exact ih name value

/-! ### What is kept -/

/-- What is kept of an exchange: the state that it leaves, the status, the headers and the body. A
body is kept up to 64 KiB, read as text. -/
inductive Reads : Reception → DeliveryState → Option Nat → Dict String → Option String → Prop where
  | delivered {headers : List (String × List UInt8)} {kept : Dict String} (bytes : List UInt8)
      (keeps : KeepsHeaders headers kept) :
      Reads (.head 200 headers (.whole bytes)) .delivered (some 200) kept
        (some (Text.Utf8.decode (bytes.take 65536)))
  | backoff {headers : List (String × List UInt8)} {kept : Dict String} (body : ResponseBody)
      (keeps : KeepsHeaders headers kept) :
      Reads (.head 429 headers body) .backoff (some 429) kept none
  | httpError {status : Nat} {headers : List (String × List UInt8)} {kept : Dict String}
      (bytes : List UInt8) (bad : status ≠ 200) (fast : status ≠ 429)
      (keeps : KeepsHeaders headers kept) :
      Reads (.head status headers (.whole bytes)) .httpError (some status) kept
        (some (Text.Utf8.decode (bytes.take 65536)))
  | late {status : Nat} {headers : List (String × List UInt8)} {kept : Dict String}
      (fast : status ≠ 429) (keeps : KeepsHeaders headers kept) :
      Reads (.head status headers .late) .timeout none kept none
  /-- A body that breaks off is missed, and the head counts alone. -/
  | brokenOff {status : Nat} {headers : List (String × List UInt8)} {kept : Dict String}
      (fast : status ≠ 429) (keeps : KeepsHeaders headers kept) :
      Reads (.head status headers .brokenOff) (if status = 200 then .delivered else .httpError)
        (some status) kept none
  | failed {why : TransportFailure} {s : DeliveryState} (told : why.Tells s) :
      Reads (.failed why) s none .empty none

theorem reads (r : DeliveryRequest) (e : Exchange) :
    Reads e.reception (ofExchange r e).state (ofExchange r e).status (ofExchange r e).headers
      (ofExchange r e).body := by
  obtain ⟨reception, took⟩ := e
  cases reception with
  | failed why =>
    have silent := TransportFailure.status?_ofFailure why
    have read := Reads.failed why.tells_state
    rw [← silent] at read
    exact read
  | head status headers body =>
    have keeps := keptHeaders_keeps headers
    by_cases slow : status = 429
    · subst slow
      exact .backoff body keeps
    by_cases good : status = 200
    · subst good
      cases body with
      | whole bytes => exact .delivered bytes keeps
      | brokenOff => exact .brokenOff slow keeps
      | late => exact .late slow keeps
    · have bad : (Outcome.answered status).state = .httpError := by
        simp [Outcome.state, good, slow]
      simp only [ofExchange, capture, if_neg slow]
      cases body with
      | whole bytes =>
        rw [bad]
        exact .httpError bytes good slow keeps
      | brokenOff =>
        have read := Reads.brokenOff slow keeps
        rw [if_neg good] at read
        rw [bad]
        exact read
      | late => exact .late slow keeps

end Response

end Courier
