/-!
# Searching in texts

Where one text occurs in another, and the parts before and after the place.
-/

namespace Courier.Text

def occursIn (needle : List Char) : List Char → Bool
  | [] => needle.isEmpty
  | c :: rest => needle.isPrefixOf (c :: rest) || occursIn needle rest

/-- What stands before and after the first place where `needle` occurs. -/
def cutAt? (needle : List Char) : List Char → Option (List Char × List Char)
  | [] => if needle.isEmpty then some ([], []) else none
  | c :: rest =>
    if needle.isPrefixOf (c :: rest) then some ([], (c :: rest).drop needle.length)
    else (cutAt? needle rest).map fun (before, after) => (c :: before, after)

theorem append_of_cutAt? {needle s before after : List Char}
    (h : cutAt? needle s = some (before, after)) : s = before ++ needle ++ after := by
  induction s generalizing before with
  | nil =>
    rw [cutAt?] at h
    split at h
    · next hn => cases h; simp_all
    · cases h
  | cons c rest ih =>
    rw [cutAt?] at h
    split at h
    · next hn =>
      cases h
      obtain ⟨t, ht⟩ := List.isPrefixOf_iff_prefix.1 hn
      simp [← ht]
    · obtain ⟨⟨b, a⟩, hb, he⟩ := Option.map_eq_some_iff.1 h
      cases he
      rw [ih hb]
      simp

end Courier.Text
