import Courier.Json.Decode
import Courier.Proofs.Json.Tokens

/-!
# The tree of a written value

The tokens of a value grow into one tree, and nothing is left over: `ofText_text` says that the text
of a value shows the whole of it.
-/

namespace Courier.Json

mutual

def toNode : Json → Node
  | .null => .null
  | .bool b => .bool b
  | .number n => .number (some n)
  | .string s => .string (some s)
  | .array items => .array (itemNodes items) true
  | .object members => .object (memberNodes members) true

def itemNodes : List Json → List Node
  | [] => []
  | v :: vs => toNode v :: itemNodes vs

def memberNodes : List (String × Json) → List (Option String × Node)
  | [] => []
  | (k, v) :: vs => (some k, toNode v) :: memberNodes vs

end

section Grow

variable {stack : List Frame} {ts : List Token}

/-- Where an array may end, a value begins as its first item. -/
theorem grow_firstItem (v : Json) (stack : List Frame) (ts : List Token) :
    grow .firstItem stack (toTokens v ++ ts) =
      grow .value (.items [] :: stack) (toTokens v ++ ts) := by
  cases v <;> rfl

mutual

theorem grow_value (v : Json) (stack : List Frame) (ts : List Token) :
    grow .value stack (toTokens v ++ ts) = grow (.after (toNode v)) stack ts := by
  cases v with
  | null | bool | number | string => rfl
  | array items =>
    rw [toTokens, toNode, List.cons_append, List.append_assoc, List.singleton_append]
    show grow .firstItem stack _ = _
    cases items with
    | nil => rfl
    | cons v vs =>
      rw [itemTokens, if_pos rfl, List.nil_append, List.append_assoc, grow_firstItem,
        grow_value v, grow_items vs]
      rfl
  | object members =>
    rw [toTokens, toNode, List.cons_append, List.append_assoc, List.singleton_append]
    show grow .firstKey stack _ = _
    cases members with
    | nil => rfl
    | cons m ms =>
      obtain ⟨k, v⟩ := m
      rw [memberTokens, if_pos rfl, List.nil_append, List.cons_append, List.cons_append,
        List.append_assoc]
      show grow .value (.members [] (some k) :: stack) _ = _
      rw [grow_value v, grow_members ms]
      rfl

theorem grow_items (vs : List Json) (v : Node) (done : List Node) (stack : List Frame)
    (ts : List Token) :
    grow (.after v) (.items done :: stack) (itemTokens false vs ++ .closeBracket :: ts) =
      grow (.after (.array ((v :: done).reverse ++ itemNodes vs) true)) stack ts := by
  cases vs with
  | nil =>
    rw [itemNodes, List.append_nil]
    rfl
  | cons w ws =>
    rw [itemTokens, if_neg Bool.false_ne_true, List.singleton_append, List.cons_append,
      List.append_assoc]
    show grow .value (.items (v :: done) :: stack) _ = _
    rw [grow_value w, grow_items ws, itemNodes, List.reverse_cons, List.append_assoc]
    rfl

theorem grow_members (ms : List (String × Json)) (v : Node) (k : Option String)
    (done : List (Option String × Node)) (stack : List Frame) (ts : List Token) :
    grow (.after v) (.members done k :: stack) (memberTokens false ms ++ .closeBrace :: ts) =
      grow (.after (.object (((k, v) :: done).reverse ++ memberNodes ms) true)) stack ts := by
  cases ms with
  | nil =>
    rw [memberNodes, List.append_nil]
    rfl
  | cons m ms =>
    obtain ⟨l, w⟩ := m
    rw [memberTokens, if_neg Bool.false_ne_true, List.singleton_append, List.cons_append,
      List.cons_append, List.cons_append, List.append_assoc]
    show grow .value (.members ((k, v) :: done) (some l) :: stack) _ = _
    rw [grow_value w, grow_members ms, memberNodes, List.reverse_cons, List.append_assoc]
    rfl

end

end Grow

theorem ofText_text {v : Json} (exact_value : IsExact v) :
    Node.ofText v.text.toList = (toNode v, true) := by
  have scanned := tokens_render exact_value [] (by rintro c ⟨⟩)
  have nothing : tokens [] = [] := by rw [tokens]
  rw [nothing] at scanned
  unfold Node.ofText text
  rw [String.toList_ofList, scanned, grow_value]
  rfl

theorem decodeText_text {α : Type} {v : Json} (exact_value : IsExact v) (d : Decoder α) :
    decodeText d v.text = d maxLevels (toNode v) := by
  unfold decodeText
  rw [ofText_text exact_value]
  dsimp only
  cases d maxLevels (toNode v) <;> rfl

end Courier.Json
