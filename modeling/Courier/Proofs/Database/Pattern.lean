import Courier.Database.Pattern

/-!
# What a pattern describes

`Matches` states the rules for the marks of a pattern, and `describes_iff` says that the matcher
finds a match exactly if there is one by these rules. The pattern of the texts that begin with `s`
describes all of them if `s` has no backslash, and no others if it has no percent sign either.
-/

namespace Courier.Pattern

/-- The text on the right has the form that the pattern on the left describes. -/
inductive Matches : List Char → List Char → Prop where
  | nil : Matches [] []
  | anyRun {p s : List Char} (u : List Char) (rest : Matches p s) : Matches ('%' :: p) (u ++ s)
  | anyOne {p s : List Char} (d : Char) (rest : Matches p s) : Matches ('_' :: p) (d :: s)
  | quoted {p s : List Char} (c : Char) (rest : Matches p s) : Matches ('\\' :: c :: p) (c :: s)
  | plain {p s : List Char} {c : Char} (no_run : c ≠ '%') (no_one : c ≠ '_') (no_quote : c ≠ '\\')
      (rest : Matches p s) : Matches (c :: p) (c :: s)

variable {f : List Char → Bool} {p s t : List Char} {c : Char}

/-! ### The matcher -/

theorem anyEnd_iff : anyEnd f s = true ↔ ∃ u t, s = u ++ t ∧ f t = true := by
  induction s with
  | nil =>
    rw [anyEnd]
    constructor
    · intro fits
      exact ⟨[], [], rfl, fits⟩
    · rintro ⟨u, t, parts, fits⟩
      obtain ⟨rfl, rfl⟩ := List.append_eq_nil_iff.mp parts.symm
      exact fits
  | cons c s ih =>
    rw [anyEnd, Bool.or_eq_true, ih]
    constructor
    · rintro (fits | ⟨u, t, rfl, fits⟩)
      · exact ⟨[], c :: s, rfl, fits⟩
      · exact ⟨c :: u, t, rfl, fits⟩
    · rintro ⟨u, t, parts, fits⟩
      rcases List.cons_eq_append_iff.mp parts with ⟨rfl, rfl⟩ | ⟨u, rfl, rfl⟩
      · exact .inl fits
      · exact .inr ⟨u, t, rfl, fits⟩

theorem describes_percent :
    describes ('%' :: p) s = true ↔ ∃ u t, s = u ++ t ∧ describes p t = true := by
  rw [describes.eq_def]
  exact anyEnd_iff

theorem describes_underscore :
    describes ('_' :: p) s = true ↔ ∃ d t, s = d :: t ∧ describes p t = true := by
  rw [describes.eq_def]
  cases s with
  | nil => simp
  | cons d s =>
    constructor
    · intro rest
      exact ⟨d, s, rfl, rest⟩
    · rintro ⟨_, _, ⟨⟩, rest⟩
      exact rest

theorem describes_backslash :
    describes ('\\' :: p) s = true ↔
      ∃ c q t, p = c :: q ∧ s = c :: t ∧ describes q t = true := by
  rw [describes.eq_def]
  cases p with
  | nil => simp
  | cons c p =>
    cases s with
    | nil => simp
    | cons d s =>
      show (c = d && describes p s) = true ↔ _
      rw [Bool.and_eq_true, decide_eq_true_iff]
      constructor
      · rintro ⟨rfl, rest⟩
        exact ⟨c, p, s, rfl, rfl, rest⟩
      · rintro ⟨_, _, _, ⟨⟩, ⟨⟩, rest⟩
        exact ⟨rfl, rest⟩

theorem describes_plain (no_run : c ≠ '%') (no_one : c ≠ '_') (no_quote : c ≠ '\\') :
    describes (c :: p) s = true ↔ ∃ t, s = c :: t ∧ describes p t = true := by
  rw [describes.eq_def]
  simp only [no_run, no_one, no_quote, if_false]
  cases s with
  | nil => simp
  | cons d s =>
    rw [Bool.and_eq_true, decide_eq_true_iff]
    constructor
    · rintro ⟨rfl, rest⟩
      exact ⟨s, rfl, rest⟩
    · rintro ⟨_, ⟨⟩, rest⟩
      exact ⟨rfl, rest⟩

theorem describes_of_matches (fits : Matches p s) : describes p s = true := by
  induction fits with
  | nil => rfl
  | anyRun u rest ih => exact describes_percent.mpr ⟨u, _, rfl, ih⟩
  | anyOne d rest ih => exact describes_underscore.mpr ⟨d, _, rfl, ih⟩
  | quoted c rest ih => exact describes_backslash.mpr ⟨c, _, _, rfl, rfl, ih⟩
  | plain no_run no_one no_quote rest ih =>
    exact (describes_plain no_run no_one no_quote).mpr ⟨_, rfl, ih⟩

theorem matches_of_describes (fits : describes p s = true) : Matches p s := by
  -- A backslash takes two characters off the pattern, so the induction is on its length.
  induction size : p.length using Nat.strongRecOn generalizing p s with
  | ind n ih =>
    have shorter {q t : List Char} (short : q.length < n) (fits : describes q t = true) :
        Matches q t := ih q.length short fits rfl
    cases p with
    | nil =>
      obtain rfl := List.isEmpty_iff.mp fits
      exact .nil
    | cons c p =>
      have short : p.length < n := by simp [← size]
      by_cases run : c = '%'
      · subst run
        obtain ⟨u, t, rfl, rest⟩ := describes_percent.mp fits
        exact .anyRun u (shorter short rest)
      by_cases one : c = '_'
      · subst one
        obtain ⟨d, t, rfl, rest⟩ := describes_underscore.mp fits
        exact .anyOne d (shorter short rest)
      by_cases quote : c = '\\'
      · subst quote
        obtain ⟨d, q, t, rfl, rfl, rest⟩ := describes_backslash.mp fits
        exact .quoted d (shorter (Nat.lt_of_succ_lt short) rest)
      · obtain ⟨t, rfl, rest⟩ := (describes_plain run one quote).mp fits
        exact .plain run one quote (shorter short rest)

theorem describes_iff : describes p s = true ↔ Matches p s :=
  ⟨matches_of_describes, describes_of_matches⟩

/-! ### Texts with their underscores escaped -/

theorem matches_percent (s : List Char) : Matches ['%'] s := by
  have run := Matches.anyRun s Matches.nil
  rwa [List.append_nil] at run

/-- A percent sign in the text may stand for itself, among other things. -/
theorem matches_escaped (bare : '\\' ∉ s) (rest : Matches p t) :
    Matches (s.flatMap escapeUnderscore ++ p) (s ++ t) := by
  induction s with
  | nil => exact rest
  | cons c s ih =>
    obtain ⟨no_quote, bare⟩ := List.ne_and_not_mem_of_not_mem_cons bare
    rw [List.flatMap_cons, List.append_assoc, escapeUnderscore]
    by_cases mark : c = '_'
    · rw [if_pos mark, mark]
      exact .quoted '_' (ih bare)
    · rw [if_neg mark]
      by_cases run : c = '%'
      · rw [run]
        exact .anyRun ['%'] (ih bare)
      · exact .plain run mark no_quote.symm (ih bare)

/-- Without percent signs every character of the text stands for itself. -/
theorem escaped_of_matches (bare : '\\' ∉ s) (fixed : '%' ∉ s)
    (fits : Matches (s.flatMap escapeUnderscore ++ p) t) : ∃ u, t = s ++ u ∧ Matches p u := by
  induction s generalizing t with
  | nil => exact ⟨t, rfl, fits⟩
  | cons c s ih =>
    obtain ⟨no_quote, bare⟩ := List.ne_and_not_mem_of_not_mem_cons bare
    obtain ⟨no_run, fixed⟩ := List.ne_and_not_mem_of_not_mem_cons fixed
    rw [List.flatMap_cons, List.append_assoc, escapeUnderscore] at fits
    have first : ∃ t', t = c :: t' ∧ Matches (s.flatMap escapeUnderscore ++ p) t' := by
      split at fits
      · next mark =>
        subst mark
        generalize s.flatMap escapeUnderscore ++ p = q at fits
        cases fits with
        | quoted _ rest => exact ⟨_, rfl, rest⟩
        | plain _ _ no_quote => exact absurd rfl no_quote
      · next mark =>
        generalize s.flatMap escapeUnderscore ++ p = q at fits
        cases fits with
        | anyRun => exact absurd rfl no_run
        | anyOne => exact absurd rfl mark
        | quoted => exact absurd rfl no_quote
        | plain _ _ _ rest => exact ⟨_, rfl, rest⟩
    obtain ⟨t, rfl, rest⟩ := first
    obtain ⟨u, rfl, more⟩ := ih bare fixed rest
    exact ⟨u, rfl, more⟩

variable {base text : String}

theorem describes_of_beginning (bare : '\\' ∉ base.toList) (begins : base.toList <+: text.toList) :
    describes (startingWith base).toList text.toList = true := by
  obtain ⟨rest, whole⟩ := begins
  rw [describes_iff, startingWith, String.toList_ofList, ← whole]
  exact matches_escaped bare (matches_percent rest)

theorem beginning_of_describes (bare : '\\' ∉ base.toList) (fixed : '%' ∉ base.toList)
    (fits : describes (startingWith base).toList text.toList = true) :
    base.toList <+: text.toList := by
  rw [describes_iff, startingWith, String.toList_ofList] at fits
  obtain ⟨rest, whole, _⟩ := escaped_of_matches bare fixed fits
  exact ⟨rest, whole.symm⟩

end Courier.Pattern
