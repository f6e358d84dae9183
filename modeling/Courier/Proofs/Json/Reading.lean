import Courier.Proofs.Data.Dict
import Courier.Proofs.Json.Tree

/-!
# Reading what was written

A map is written in no fixed order. `Alike` relates the values that differ in the order of members
only, and a decoder reads a value if it reads all values alike. JSON itself is read within its
depth, and so are dictionaries of what can be read.
-/

namespace Courier.Json

/-! ### Depth and order -/

mutual

def depth : Json → Nat
  | .null | .bool _ | .number _ | .string _ => 0
  | .array items => itemDepth items + 1
  | .object members => memberDepth members + 1

def itemDepth : List Json → Nat
  | [] => 0
  | v :: vs => max (depth v) (itemDepth vs)

def memberDepth : List (String × Json) → Nat
  | [] => 0
  | (_, v) :: vs => max (depth v) (memberDepth vs)

end

/-- Every object is a map: it has its members in the order of their keys, each key once. -/
inductive IsOrdered : Json → Prop where
  | null : IsOrdered .null
  | bool (b : Bool) : IsOrdered (.bool b)
  | number (n : Number) : IsOrdered (.number n)
  | string (s : String) : IsOrdered (.string s)
  | array {items : List Json} (each : ∀ v ∈ items, IsOrdered v) : IsOrdered (.array items)
  | object {members : List (String × Json)} (increasing : members.Pairwise (·.1 < ·.1))
      (each : ∀ m ∈ members, IsOrdered m.2) : IsOrdered (.object members)

/-- A value as the program holds it, without floating point numbers. -/
structure IsPayload (v : Json) : Prop where
  isExact : IsExact v
  isOrdered : IsOrdered v

/-- The values are the same but for the order in which objects list their members. -/
inductive Alike : Json → Json → Prop where
  | null : Alike .null .null
  | bool (b : Bool) : Alike (.bool b) (.bool b)
  | number (n : Number) : Alike (.number n) (.number n)
  | string (s : String) : Alike (.string s) (.string s)
  | array (pairs : List (Json × Json)) (each : ∀ p ∈ pairs, Alike p.1 p.2) :
      Alike (.array (pairs.map (·.1))) (.array (pairs.map (·.2)))
  | object {members : List (String × Json)} (pairs : List (String × Json × Json))
      (perm : members.Perm (pairs.map fun p => (p.1, p.2.1)))
      (each : ∀ p ∈ pairs, Alike p.2.1 p.2.2) :
      Alike (.object members) (.object (pairs.map fun p => (p.1, p.2.2)))

section Shape

variable {v w : Json} {items : List Json} {members : List (String × Json)} {m : String × Json}

theorem depth_le_itemDepth (member : v ∈ items) : depth v ≤ itemDepth items := by
  induction items with
  | nil => cases member
  | cons x xs ih =>
    rw [itemDepth]
    rcases List.mem_cons.mp member with rfl | rest
    · exact Nat.le_max_left _ _
    · exact Nat.le_trans (ih rest) (Nat.le_max_right _ _)

theorem depth_le_memberDepth (member : m ∈ members) : depth m.2 ≤ memberDepth members := by
  induction members with
  | nil => cases member
  | cons x xs ih =>
    obtain ⟨k, v⟩ := x
    rw [memberDepth]
    rcases List.mem_cons.mp member with rfl | rest
    · exact Nat.le_max_left _ _
    · exact Nat.le_trans (ih rest) (Nat.le_max_right _ _)

theorem depth_of_member {k : String} {levels : Nat}
    (within : depth (.object members) ≤ levels + 1) (member : (k, v) ∈ members) :
    depth v ≤ levels := by
  rw [depth] at within
  exact Nat.le_trans (depth_le_memberDepth member) (Nat.le_of_succ_le_succ within)

mutual

theorem Alike.refl (v : Json) : Alike v v := by
  cases v with
  | null => exact .null
  | bool b => exact .bool b
  | number n => exact .number n
  | string s => exact .string s
  | array items =>
    have both := Alike.array (items.map fun v => (v, v)) (Alike.refl_items items)
    simpa [Function.comp_def] using both
  | object members =>
    have same : members.Perm
        ((members.map fun m => (m.1, m.2, m.2)).map fun p => (p.1, p.2.1)) := by
      simp [Function.comp_def]
    have both := Alike.object _ same (Alike.refl_members members)
    simpa [Function.comp_def] using both

theorem Alike.refl_items (items : List Json) :
    ∀ p ∈ items.map fun v => (v, v), Alike p.1 p.2 := by
  cases items with
  | nil => simp
  | cons v vs => exact List.forall_mem_cons.mpr ⟨Alike.refl v, Alike.refl_items vs⟩

theorem Alike.refl_members (members : List (String × Json)) :
    ∀ p ∈ members.map fun m => (m.1, m.2, m.2), Alike p.2.1 p.2.2 := by
  cases members with
  | nil => simp
  | cons m ms => exact List.forall_mem_cons.mpr ⟨Alike.refl m.2, Alike.refl_members ms⟩

end

theorem IsExact.alike (exact_value : IsExact v) (alike : Alike v w) : IsExact w := by
  induction alike with
  | null | bool | number | string => exact exact_value
  | array pairs _ ih =>
    cases exact_value with
    | array each =>
      refine .array fun y member => ?_
      obtain ⟨p, there, rfl⟩ := List.mem_map.mp member
      exact ih p there (each _ (List.mem_map_of_mem there))
  | object pairs perm _ ih =>
    cases exact_value with
    | object each =>
      refine .object fun y member => ?_
      obtain ⟨p, there, rfl⟩ := List.mem_map.mp member
      exact ih p there (each _ (perm.mem_iff.mpr (List.mem_map_of_mem there)))

end Shape

/-! ### Decoders that read a value -/

namespace Decoder

/-- The value is exact, and in so many levels the decoder reads it, and what is alike, as `a`. -/
structure Reads {α : Type} (d : Decoder α) (levels : Nat) (v : Json) (a : α) : Prop where
  isExact : IsExact v
  read : ∀ w, v.Alike w → d levels (toNode w) = .ok a

variable {α β : Type} {levels : Nat}

theorem reads_text (s : String) : text.Reads levels (.string s) s where
  isExact := .string s
  read := by
    rintro w ⟨⟩
    rfl

theorem reads_bool (b : Bool) : bool.Reads levels (.bool b) b where
  isExact := .bool b
  read := by
    rintro w ⟨⟩
    rfl

theorem jsonItems_spec {pairs : List (Json × Json)}
    (each : ∀ p ∈ pairs, json levels (toNode p.2) = .ok p.1) :
    jsonItems levels (itemNodes (pairs.map (·.2))) = .ok (pairs.map (·.1)) := by
  induction pairs with
  | nil => rfl
  | cons p pairs ih =>
    have head := each p List.mem_cons_self
    have tail := ih fun q member => each q (List.mem_cons_of_mem p member)
    rw [List.map_cons, itemNodes, jsonItems, head, tail]
    rfl

theorem jsonMembers_spec {pairs : List (String × Json × Json)}
    (each : ∀ p ∈ pairs, json levels (toNode p.2.2) = .ok p.2.1) :
    jsonMembers levels (memberNodes (pairs.map fun p => (p.1, p.2.2))) =
      .ok (pairs.map fun p => (p.1, p.2.1)) := by
  induction pairs with
  | nil => rfl
  | cons p pairs ih =>
    have head := each p List.mem_cons_self
    have tail := ih fun q member => each q (List.mem_cons_of_mem p member)
    rw [List.map_cons, memberNodes, jsonMembers, head, tail]
    rfl

theorem json_spec {v w : Json} (ordered : IsOrdered v) (within : depth v ≤ levels)
    (alike : Alike v w) : json levels (toNode w) = .ok v := by
  induction alike generalizing levels with
  | null | bool | number | string => rfl
  | array pairs _ ih =>
    cases ordered with
    | array ordered =>
      rw [depth] at within
      cases levels with
      | zero => cases within
      | succ levels =>
        have each : ∀ p ∈ pairs, json levels (toNode p.2) = .ok p.1 := by
          intro p member
          have there : p.1 ∈ pairs.map (·.1) := List.mem_map_of_mem member
          have deep : depth p.1 ≤ _ := depth_le_itemDepth there
          exact ih p member (ordered _ there) (by omega)
        rw [toNode, json, jsonItems_spec each]
        rfl
  | @object members pairs perm _ ih =>
    cases ordered with
    | object increasing ordered =>
      rw [depth] at within
      cases levels with
      | zero => cases within
      | succ levels =>
        have each : ∀ p ∈ pairs, json levels (toNode p.2.2) = .ok p.2.1 := by
          intro p member
          have there : (p.1, p.2.1) ∈ members := perm.mem_iff.mpr (List.mem_map_of_mem member)
          have deep : depth p.2.1 ≤ _ := depth_le_memberDepth there
          exact ih p member (ordered _ there) (by omega)
        have same : Dict.ofList (pairs.map fun p => (p.1, p.2.1)) = ⟨members, increasing⟩ :=
          Dict.ofList_of_perm perm
        rw [toNode, json, jsonMembers_spec each]
        show Except.ok (Json.object (Dict.ofList _).entries) = _
        rw [same]

theorem reads_json {v : Json} (payload : v.IsPayload) (within : depth v ≤ levels) :
    Reads json levels v v :=
  ⟨payload.isExact, fun _ => json_spec payload.isOrdered within⟩

theorem reads_map {d : Decoder α} {v : Json} {a : α} (f : α → β) (reads : d.Reads levels v a) :
    (d.map f).Reads levels v (f a) where
  isExact := reads.isExact
  read w alike := by
    rw [map, reads.read w alike]
    rfl

theorem reads_ofText {f : List Char → Option α} {s : String} {a : α}
    (same : f s.toList = some a) : (ofText f).Reads levels (.string s) a where
  isExact := .string s
  read := by
    rintro w ⟨⟩
    rw [toNode, ofText, text]
    dsimp only [bind, Except.bind]
    rw [same]

theorem isExact_int {i : Int} (fits : -2 ^ 63 ≤ i) : IsExact (.int i) := by
  rw [int]
  split
  · next below =>
    have back : (Int64.ofInt i).toInt = i := Int64.toInt_ofInt_of_le fits (by omega)
    refine .negative (Int64.lt_iff_toInt_lt.mpr ?_)
    rw [back]
    exact below
  · exact .nat _

theorem reads_integer {least greatest i : Int} (low : least ≤ i) (high : i ≤ greatest)
    (fits : -2 ^ 63 ≤ i ∧ i < 2 ^ 64) : (integer least greatest).Reads levels (.int i) i := by
  refine ⟨isExact_int fits.1, fun w alike => ?_⟩
  rw [int] at alike
  split at alike
  · next negative =>
    have back : (Int64.ofInt i).toInt = i := Int64.toInt_ofInt_of_le fits.1 (by omega)
    cases alike
    simp only [toNode, integer, Number.toInt?, back]
    rw [if_pos ⟨low, high⟩]
  · next natural =>
    have back : ((UInt64.ofNat i.toNat).toNat : Int) = i := by
      have small : i.toNat < 2 ^ 64 := by omega
      rw [UInt64.toNat_ofNat_of_lt' small]
      omega
    cases alike
    simp only [toNode, integer, Number.toInt?, back]
    rw [if_pos ⟨low, high⟩]

theorem nullable_of_ne {d : Decoder α} {n : Node} (present : n ≠ .null) :
    d.nullable levels n = (d levels n).map some := by
  cases n with
  | null => exact absurd rfl present
  | _ => rfl

theorem reads_nullable {d : Decoder α} {v : Json} {a : α} (present : v ≠ .null)
    (reads : d.Reads levels v a) : d.nullable.Reads levels v (some a) := by
  refine ⟨reads.isExact, fun w alike => ?_⟩
  have still : toNode w ≠ .null := by
    cases alike with
    | null => exact absurd rfl present
    | _ => simp [toNode]
  rw [nullable_of_ne still, reads.read w alike]
  rfl

theorem reads_null {d : Decoder α} : d.nullable.Reads levels .null none where
  isExact := .null
  read := by
    rintro w ⟨⟩
    rfl

theorem reads_option {d : Decoder α} {f : α → Json} {o : Option α}
    (present : ∀ a, f a ≠ .null) (reads : ∀ a ∈ o, d.Reads levels (f a) a) :
    d.nullable.Reads levels (option f o) o := by
  cases o with
  | none => exact reads_null
  | some a => exact reads_nullable (present a) (reads a rfl)

theorem reads_variant {names : List String} {f : String → Option α} {s : String} {a : α}
    (same : f s = some a) : (variant names f).Reads levels (.string s) a where
  isExact := .string s
  read := by
    rintro w ⟨⟩
    rw [toNode, variant]
    dsimp only
    rw [same]

/-! ### Dictionaries -/

theorem exists_perm_of_map {f : α → β} {l : List α} {k : List β} (perm : (l.map f).Perm k) :
    ∃ m, l.Perm m ∧ m.map f = k := by
  generalize image : l.map f = j at perm
  induction perm generalizing l with
  | nil =>
    rw [List.map_eq_nil_iff] at image
    exact ⟨l, .refl l, image ▸ rfl⟩
  | cons b _ ih =>
    obtain ⟨a, rest, rfl, rfl, tail⟩ := List.map_eq_cons_iff.mp image
    obtain ⟨m, perm, rfl⟩ := ih tail
    exact ⟨a :: m, perm.cons a, rfl⟩
  | swap x y k =>
    obtain ⟨a, more, rfl, rfl, tail⟩ := List.map_eq_cons_iff.mp image
    obtain ⟨b, rest, rfl, rfl, rfl⟩ := List.map_eq_cons_iff.mp tail
    exact ⟨b :: a :: rest, .swap b a rest, rfl⟩
  | trans _ _ first second =>
    obtain ⟨m, perm, rfl⟩ := first image
    obtain ⟨n, perm', rfl⟩ := second rfl
    exact ⟨n, perm.trans perm', rfl⟩

theorem entries_spec {d : Decoder α} {f : α → Json} {es : List (String × α)}
    {pairs : List (String × Json × Json)}
    (written : es.map (fun e => (e.1, f e.2)) = pairs.map fun p => (p.1, p.2.1))
    (each : ∀ e ∈ es, d.Reads levels (f e.2) e.2) (alike : ∀ p ∈ pairs, Alike p.2.1 p.2.2) :
    entries d levels (memberNodes (pairs.map fun p => (p.1, p.2.2))) = .ok es := by
  induction pairs generalizing es with
  | nil =>
    rw [List.map_nil, List.map_eq_nil_iff] at written
    subst written
    rfl
  | cons p pairs ih =>
    rw [List.map_cons] at written
    obtain ⟨e, rest, rfl, head, tail⟩ := List.map_eq_cons_iff.mp written
    obtain ⟨key, value⟩ := Prod.mk.inj head
    have read : d levels (toNode p.2.2) = .ok e.2 :=
      (each e List.mem_cons_self).read _ (value ▸ alike p List.mem_cons_self)
    have others := ih tail (fun e' member => each e' (List.mem_cons_of_mem e member))
      fun q member => alike q (List.mem_cons_of_mem p member)
    rw [List.map_cons, memberNodes, entries, read, others, ← key]
    rfl

theorem reads_dict {d : Decoder α} {f : α → Json} {m : Dict α}
    (each : ∀ e ∈ m.entries, d.Reads levels (f e.2) e.2) :
    (dict d).Reads (levels + 1) (.object (m.entries.map fun e => (e.1, f e.2))) m := by
  refine ⟨.object fun v written => ?_, fun w alike => ?_⟩
  · obtain ⟨e, member, rfl⟩ := List.mem_map.mp written
    exact (each e member).isExact
  cases alike with
  | object pairs perm alike =>
    obtain ⟨es, same, written⟩ := exists_perm_of_map perm
    have read := entries_spec written (fun e member => each e (same.mem_iff.mpr member)) alike
    rw [toNode, dict, read]
    exact congrArg Except.ok (Dict.ofList_of_perm same)

theorem reads_texts (m : Dict String) : (dict text).Reads (levels + 1) (.texts m) m :=
  reads_dict fun e _ => reads_text e.2

theorem reads_payloads {m : Dict Json} (payloads : ∀ e ∈ m.entries, e.2.IsPayload)
    (within : memberDepth m.entries ≤ levels) : (dict json).Reads (levels + 1) (.dict m) m := by
  have same : m.entries.map (fun e => (e.1, id e.2)) = m.entries := List.map_id m.entries
  rw [Json.dict, ← same]
  exact reads_dict fun e member =>
    reads_json (payloads e member) (Nat.le_trans (depth_le_memberDepth member) within)

end Decoder

end Courier.Json
