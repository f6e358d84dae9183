import Courier.Proofs.Json.Reading

/-!
# Records are read in any order

`Record.Reads` says field by field that a record reads the members of an object. The object may have
its members in any order, since no two have one name.
-/

namespace Courier.Json

open Decoder

/-- The fields of the record read the members, each its own, and make `a` of them. -/
inductive Record.Reads (levels : Nat) :
    {α : Type} → Record α → List (String × Json) → α → Prop where
  | make {α : Type} (a : α) : Reads levels (.make a) [] a
  | app {α β : Type} {r : Record (β → α)} {f : Field β} {members : List (String × Json)}
      {g : β → α} {v : Json} {b : β} (reads : Reads levels r members g)
      (new : f.name ∉ members.map (·.1)) (field : f.decode.Reads levels v b) :
      Reads levels (.app r f) (members ++ [(f.name, v)]) (g b)

namespace Record

variable {α β : Type} {levels : Nat} {r : Record α} {members : List (String × Json)} {a : α}
  {name : String} {nodes : List (Option String × Node)}

namespace Reads

theorem keys_nodup (reads : r.Reads levels members a) : (members.map (·.1)).Nodup := by
  induction reads with
  | make => exact .nil
  | app _ new _ ih =>
    rw [List.map_append, List.nodup_append]
    refine ⟨ih, by simp, ?_⟩
    rintro k member l last rfl
    rw [List.map_singleton, List.mem_singleton] at last
    rw [last] at member
    exact new member

theorem check?_of_absent (reads : r.Reads levels members a) (absent : name ∉ members.map (·.1)) :
    r.check? name = none := by
  induction reads with
  | make => rfl
  | @app _ _ r f members _ v _ _ _ _ ih =>
    rw [List.map_append, List.mem_append, not_or, List.map_singleton, List.mem_singleton] at absent
    rw [check?, ih absent.1]
    exact if_neg fun same => absent.2 same.symm

theorem check? (reads : r.Reads levels members a) {m : String × Json} (member : m ∈ members) :
    ∃ d, r.check? m.1 = some d ∧ d.Reads levels m.2 () := by
  induction reads with
  | make => cases member
  | @app _ _ r f members _ v _ reads new field ih =>
    rw [Record.check?]
    rcases List.mem_append.mp member with old | last
    · obtain ⟨d, found, passes⟩ := ih old
      exact ⟨d, by rw [found], passes⟩
    · cases List.mem_singleton.mp last
      refine ⟨f.decode.map fun _ => (), ?_, reads_map _ field⟩
      rw [reads.check?_of_absent new]
      exact if_pos rfl

theorem ofMembers (reads : r.Reads levels members a)
    (found : ∀ m ∈ members, ∃ w, Alike m.2 w ∧
      nodes.find? (fun n => n.1 == some m.1) = some (some m.1, toNode w)) :
    r.ofMembers levels nodes = .ok a := by
  induction reads with
  | make => rfl
  | @app _ _ r f members _ v _ _ _ field ih =>
    have before := ih fun m member => found m (List.mem_append_left _ member)
    obtain ⟨w, alike, at_name⟩ := found (f.name, v) (by simp)
    rw [Record.ofMembers, before, member, at_name]
    show (f.decode levels (toNode w) >>= fun b => _) = _
    rw [field.read w alike]
    rfl

section Fields

variable {d : Decoder β} {r : Record (β → α)} {g : β → α} {v : Json}

theorem required (reads : r.Reads levels members g) (name : String) {b : β}
    (field : d.Reads levels v b) (new : name ∉ members.map (·.1)) :
    (r.app (.required name d)).Reads levels (members ++ [(name, v)]) (g b) :=
  .app (f := .required name d) reads new field

theorem defaulted (reads : r.Reads levels members g) (name : String) {b : β}
    (field : d.Reads levels v b) (c : β) (new : name ∉ members.map (·.1)) :
    (r.app (.defaulted name d c)).Reads levels (members ++ [(name, v)]) (g b) :=
  .app (f := .defaulted name d c) reads new field

theorem optional {r : Record (Option β → α)} {g : Option β → α} {o : Option β}
    (reads : r.Reads levels members g) (name : String) (field : d.nullable.Reads levels v o)
    (new : name ∉ members.map (·.1)) :
    (r.app (.optional name d)).Reads levels (members ++ [(name, v)]) (g o) :=
  .app (f := .optional name d) reads new field

end Fields

end Reads

theorem find?_memberNodes {ms : List (String × Json)} (distinct : (ms.map (·.1)).Nodup)
    {m : String × Json} (member : m ∈ ms) :
    (memberNodes ms).find? (fun n => n.1 == some m.1) = some (some m.1, toNode m.2) := by
  induction ms with
  | nil => cases member
  | cons head rest ih =>
    obtain ⟨k, v⟩ := head
    rw [List.map_cons, List.nodup_cons] at distinct
    rw [memberNodes]
    rcases List.mem_cons.mp member with rfl | later
    · exact List.find?_cons_of_pos (by simp)
    · have there : m.1 ∈ rest.map (·.1) := List.mem_map_of_mem later
      have other : k ≠ m.1 := fun same => distinct.1 (same ▸ there)
      rw [List.find?_cons_of_neg (by simpa using other)]
      exact ih distinct.2 later

theorem checkMembers_spec {strict : Bool} {seen : List String} {ms : List (String × Json)}
    (distinct : (ms.map (·.1)).Nodup) (new : ∀ m ∈ ms, m.1 ∉ seen)
    (each : ∀ m ∈ ms, ∃ d, r.check? m.1 = some d ∧ d levels (toNode m.2) = .ok ()) :
    r.checkMembers strict levels seen (memberNodes ms) = .ok () := by
  induction ms generalizing seen with
  | nil => rfl
  | cons m rest ih =>
    obtain ⟨k, v⟩ := m
    rw [List.map_cons, List.nodup_cons] at distinct
    obtain ⟨d, found, passes⟩ := each (k, v) List.mem_cons_self
    have later : r.checkMembers strict levels (k :: seen) (memberNodes rest) = .ok () := by
      refine ih distinct.2 (fun m member => ?_) fun m member =>
        each m (List.mem_cons_of_mem _ member)
      have there : m.1 ∈ rest.map (·.1) := List.mem_map_of_mem member
      rw [List.mem_cons, not_or]
      exact ⟨fun same => distinct.1 (same ▸ there), new m (List.mem_cons_of_mem _ member)⟩
    rw [memberNodes, checkMembers, found]
    dsimp only
    rw [if_neg (new (k, v) List.mem_cons_self), passes]
    exact later

/-- A record reads the object of its members, whatever their order. -/
theorem Reads.decoder (reads : r.Reads levels members a) (strict : Bool) :
    (r.decoder strict).Reads (levels + 1) (.object members) a := by
  refine ⟨.object fun m member => ?_, fun w alike => ?_⟩
  · obtain ⟨d, _, passes⟩ := reads.check? member
    exact passes.isExact
  cases alike with
  | object pairs perm each =>
    -- the object that is read has the same keys, each once
    have keys : (pairs.map fun p => (p.1, p.2.2)).map (·.1) = pairs.map (·.1) := by
      simp [Function.comp_def]
    have same : (members.map (·.1)).Perm (pairs.map (·.1)) := by
      simpa [Function.comp_def] using perm.map (·.1)
    have distinct : ((pairs.map fun p => (p.1, p.2.2)).map (·.1)).Nodup := by
      rw [keys]
      exact same.nodup_iff.mp reads.keys_nodup
    have checked : r.checkMembers strict levels []
        (memberNodes (pairs.map fun p => (p.1, p.2.2))) = .ok () := by
      refine checkMembers_spec distinct (fun _ _ => List.not_mem_nil) fun m member => ?_
      obtain ⟨p, there, rfl⟩ := List.mem_map.mp member
      have written : (p.1, p.2.1) ∈ members := perm.mem_iff.mpr (List.mem_map_of_mem there)
      obtain ⟨d, found, passes⟩ := reads.check? written
      exact ⟨d, found, passes.read _ (each p there)⟩
    have made : r.ofMembers levels (memberNodes (pairs.map fun p => (p.1, p.2.2))) = .ok a := by
      refine reads.ofMembers fun m member => ?_
      obtain ⟨p, there, rfl⟩ := List.mem_map.mp (perm.mem_iff.mp member)
      exact ⟨p.2.2, each p there, find?_memberNodes distinct (List.mem_map_of_mem there)⟩
    rw [toNode, Record.decoder, checked]
    exact made

end Record

end Courier.Json
