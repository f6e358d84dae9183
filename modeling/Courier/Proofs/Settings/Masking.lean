import Courier.Proofs.Text.Places
import Courier.Proofs.Text.Search
import Courier.Settings.Masking
import Mathlib.Data.List.DropRight

/-!
# What a masked connection URL shows

A connection URL has a password if a colon stands before the last at sign behind the scheme. Then
what stands between the two is masked, and else nothing is. So the password of a user does not show,
whatever it is: `user_password_is_hidden`. The places of the masking may be counted in bytes:
`maskedByPlaces?_eq`.
-/

namespace Courier.Settings

open Text (cutAt? slice?)
open Text.Utf8 (size)

variable {c : Char} {s scheme url rest user name password host before after : List Char}

/-! ### Cutting at the last place -/

theorem cutAtLast?_eq_none_iff : cutAtLast? c s = none ↔ c ∉ s := by
  induction s with
  | nil => simp [cutAtLast?]
  | cons d rest ih =>
    rw [cutAtLast?, List.mem_cons, not_or, ← ih]
    cases cutAtLast? c rest with
    | none => simp [eq_comm]
    | some found => simp

theorem cutAtLast?_of_last (last : c ∉ after) :
    cutAtLast? c (before ++ c :: after) = some (before, after) := by
  induction before with
  | nil => rw [List.nil_append, cutAtLast?, cutAtLast?_eq_none_iff.mpr last, if_pos rfl]
  | cons d front ih => rw [List.cons_append, cutAtLast?, ih]

theorem last_of_cutAtLast? (cut : cutAtLast? c s = some (before, after)) :
    s = before ++ c :: after ∧ c ∉ after := by
  induction s generalizing before with
  | nil => cases cut
  | cons d rest ih =>
    rw [cutAtLast?] at cut
    cases found : cutAtLast? c rest with
    | none =>
      simp only [found, Option.ite_none_right_eq_some] at cut
      obtain ⟨rfl, same⟩ := cut
      cases same
      exact ⟨rfl, cutAtLast?_eq_none_iff.mp found⟩
    | some parts =>
      obtain ⟨front, back⟩ := parts
      simp only [found] at cut
      cases cut
      obtain ⟨split, last⟩ := ih found
      exact ⟨congrArg (d :: ·) split, last⟩

/-! ### The scheme -/

def schemeMark : List Char := "://".toList

theorem isUnbordered_schemeMark : Text.IsUnbordered schemeMark := by decide

theorem cutScheme_of_first (first : ¬ schemeMark <:+: scheme) :
    cutScheme (scheme ++ (schemeMark ++ rest)) = (scheme ++ schemeMark, rest) := by
  have cut := Text.cutAt?_of_first isUnbordered_schemeMark first rest
  rw [cutScheme, show "://".toList = schemeMark from rfl, cut]

theorem cutScheme_of_unmarked (unmarked : ¬ schemeMark <:+: url) : cutScheme url = ([], url) := by
  have uncut := Text.cutAt?_eq_none_iff.mpr unmarked
  rw [cutScheme, show "://".toList = schemeMark from rfl, uncut]

theorem exists_cutScheme (url : List Char) :
    (∃ scheme rest, ¬ schemeMark <:+: scheme ∧ url = scheme ++ (schemeMark ++ rest)) ∨
      ¬ schemeMark <:+: url := by
  cases cut : cutAt? schemeMark url with
  | none => exact .inr (Text.cutAt?_eq_none_iff.mp cut)
  | some parts =>
    obtain ⟨split, first⟩ :=
      (Text.cutAt?_eq_some_iff (List.cons_ne_nil _ _) isUnbordered_schemeMark).mp cut
    exact .inl ⟨_, _, first, split⟩

/-! ### The password -/

/-- A URL has a password, between the first colon and the last at sign behind its scheme. -/
structure HasPassword (url scheme name password host : List Char) : Prop where
  scheme : cutScheme url = (scheme, name ++ ':' :: (password ++ '@' :: host))
  name : ':' ∉ name
  host : '@' ∉ host

def shownUrl (scheme name host : List Char) : List Char :=
  scheme ++ (name ++ ':' :: ("***".toList ++ '@' :: host))

theorem HasPassword.maskedUrl (has : HasPassword url scheme name password host) :
    maskedUrl (String.ofList url) = String.ofList (shownUrl scheme name host) := by
  have user : name ++ ':' :: (password ++ '@' :: host) = (name ++ ':' :: password) ++ '@' :: host :=
    (List.append_assoc name (':' :: password) _).symm
  have masked : maskUser? (name ++ ':' :: password) = some (name ++ ":***".toList) := by
    have first : ¬ [':'] <:+: name := mt (List.singleton_infix_iff _ _).mp has.name
    have cut := Text.cutAt?_of_first (Text.isUnbordered_singleton ':') first password
    rw [maskUser?, show ':' :: password = [':'] ++ password from rfl, cut]
    rfl
  unfold Settings.maskedUrl
  rw [String.toList_ofList, has.scheme, user]
  dsimp only
  rw [cutAtLast?_of_last has.host]
  dsimp only
  rw [masked]
  simp [shownUrl]

theorem maskedUrl_of_hostless (split : cutScheme url = (scheme, rest)) (absent : '@' ∉ rest) :
    maskedUrl (String.ofList url) = String.ofList url := by
  unfold maskedUrl
  rw [String.toList_ofList, split]
  dsimp only
  rw [cutAtLast?_eq_none_iff.mpr absent]

theorem maskedUrl_of_nameless (split : cutScheme url = (scheme, user ++ '@' :: host))
    (last : '@' ∉ host) (absent : ':' ∉ user) :
    maskedUrl (String.ofList url) = String.ofList url := by
  have whole : maskUser? user = none := by
    rw [maskUser?, Text.cutAt?_eq_none_iff.mpr (mt (List.singleton_infix_iff _ _).mp absent)]
    rfl
  unfold maskedUrl
  rw [String.toList_ofList, split]
  dsimp only
  rw [cutAtLast?_of_last last]
  dsimp only
  rw [whole]

theorem exists_last (mem : c ∈ s) : ∃ before after, s = before ++ c :: after ∧ c ∉ after := by
  cases cut : cutAtLast? c s with
  | none => exact absurd mem (cutAtLast?_eq_none_iff.mp cut)
  | some parts => exact ⟨_, _, last_of_cutAtLast? cut⟩

theorem hasPassword_or_plain (url : List Char) :
    (∃ scheme name password host, HasPassword url scheme name password host) ∨
      maskedUrl (String.ofList url) = String.ofList url := by
  obtain ⟨⟨scheme, rest⟩, split⟩ : ∃ parts, cutScheme url = parts := ⟨_, rfl⟩
  by_cases hosted : '@' ∈ rest
  · obtain ⟨user, host, rfl, last⟩ := exists_last hosted
    by_cases secret : ':' ∈ user
    · obtain ⟨name, password, rfl, first⟩ := List.eq_append_cons_of_mem secret
      rw [List.append_assoc, List.cons_append] at split
      exact .inl ⟨scheme, name, password, host, split, first, last⟩
    · exact .inr (maskedUrl_of_nameless split last secret)
  · exact .inr (maskedUrl_of_hostless split hosted)

/-! ### Masking again -/

theorem schemeMark_infix_of_not_mem (absent : ':' ∉ name) (occurs : schemeMark <:+: name ++ rest) :
    schemeMark <:+: rest := by
  induction name with
  | nil => exact occurs
  | cons d front ih =>
    rw [List.mem_cons, not_or] at absent
    rw [List.cons_append, List.infix_cons_iff] at occurs
    obtain here | later := occurs
    · exact absurd (List.cons_prefix_cons.mp here).1 absent.1
    · exact ih absent.2 later

theorem unmarked_of_masked (first : ':' ∉ name)
    (unmarked : ¬ schemeMark <:+: name ++ ':' :: (password ++ '@' :: host)) :
    ¬ schemeMark <:+: name ++ ':' :: ("***".toList ++ '@' :: host) := by
  intro occurs
  have later := schemeMark_infix_of_not_mem first occurs
  have within : schemeMark <:+: host := by
    simpa [schemeMark, List.infix_cons_iff, List.cons_prefix_cons] using later
  have tail : host <:+ name ++ ':' :: (password ++ '@' :: host) :=
    ⟨name ++ ':' :: (password ++ ['@']), by simp⟩
  exact unmarked (within.trans tail.isInfix)

theorem HasPassword.again (has : HasPassword url scheme name password host) :
    HasPassword (shownUrl scheme name host) scheme name "***".toList host := by
  refine ⟨?_, has.name, has.host⟩
  obtain ⟨front, rest, first, rfl⟩ | unmarked := exists_cutScheme url
  · have same := (cutScheme_of_first first).symm.trans has.scheme
    obtain ⟨rfl, -⟩ := Prod.mk.inj same
    rw [shownUrl, List.append_assoc]
    exact cutScheme_of_first first
  · have same := (cutScheme_of_unmarked unmarked).symm.trans has.scheme
    obtain ⟨rfl, rfl⟩ := Prod.mk.inj same
    exact cutScheme_of_unmarked (unmarked_of_masked has.name unmarked)

theorem maskedUrl_idempotent (url : String) : maskedUrl (maskedUrl url) = maskedUrl url := by
  rw [← String.ofList_toList (s := url)]
  obtain ⟨scheme, name, password, host, has⟩ | plain := hasPassword_or_plain url.toList
  · rw [has.maskedUrl, has.again.maskedUrl]
  · rw [plain, plain]

/-! ### Masking by places -/

def firstPlace? (needle s : List Char) : Option Nat :=
  (cutAt? needle s).map fun (before, _) => size before

def lastPlace? (c : Char) (s : List Char) : Option Nat :=
  (cutAtLast? c s).map fun (before, _) => size before

/-- The URL masked by places that are counted in bytes, unless one of them is none. -/
def maskedByPlaces? (url : List Char) : Option (List Char) := do
  let start := ((firstPlace? schemeMark url).map (· + 3)).getD 0
  let rest ← slice? url start (size url)
  match lastPlace? '@' rest with
  | none => return url
  | some i =>
    let user ← slice? url start (i + start)
    match firstPlace? [':'] user with
    | none => return url
    | some colon =>
      let shown ← slice? url 0 (start + colon + 1)
      let host ← slice? url (i + start) (size url)
      return shown ++ "***".toList ++ host

theorem start_of_cutScheme (split : cutScheme url = (scheme, rest)) :
    url = scheme ++ rest ∧ ((firstPlace? schemeMark url).map (· + 3)).getD 0 = size scheme := by
  unfold firstPlace?
  obtain ⟨front, back, first, rfl⟩ | unmarked := exists_cutScheme url
  · have same := (cutScheme_of_first first).symm.trans split
    obtain ⟨rfl, rfl⟩ := Prod.mk.inj same
    rw [Text.cutAt?_of_first isUnbordered_schemeMark first, Text.Utf8.size_append]
    exact ⟨(List.append_assoc _ _ _).symm, rfl⟩
  · have same := (cutScheme_of_unmarked unmarked).symm.trans split
    obtain ⟨rfl, rfl⟩ := Prod.mk.inj same
    rw [Text.cutAt?_eq_none_iff.mpr unmarked]
    exact ⟨rfl, rfl⟩

theorem lastPlace?_of_last (last : c ∉ after) :
    lastPlace? c (before ++ c :: after) = some (size before) := by
  rw [lastPlace?, cutAtLast?_of_last last]
  rfl

theorem firstPlace?_of_first (first : c ∉ before) :
    firstPlace? [c] (before ++ c :: after) = some (size before) := by
  have unfound : ¬ [c] <:+: before := mt (List.singleton_infix_iff _ _).mp first
  have cut := Text.cutAt?_of_first (Text.isUnbordered_singleton c) unfound after
  rw [firstPlace?, show c :: after = [c] ++ after from rfl, cut]
  rfl

theorem lastPlace?_of_absent (absent : c ∉ s) : lastPlace? c s = none := by
  rw [lastPlace?, cutAtLast?_eq_none_iff.mpr absent]
  rfl

theorem firstPlace?_of_absent (absent : c ∉ s) : firstPlace? [c] s = none := by
  rw [firstPlace?, Text.cutAt?_eq_none_iff.mpr (mt (List.singleton_infix_iff _ _).mp absent)]
  rfl

/-- All places of the masking lie between characters, and what lies between them is what is
shown. -/
theorem maskedByPlaces?_eq (url : List Char) :
    maskedByPlaces? url = some (maskedUrl (String.ofList url)).toList := by
  obtain ⟨⟨scheme, rest⟩, split⟩ : ∃ parts, cutScheme url = parts := ⟨_, rfl⟩
  obtain ⟨whole, start⟩ := start_of_cutScheme split
  have behind : slice? url (size scheme) (size url) = some rest :=
    whole ▸ Text.slice?_tail scheme rest
  unfold maskedByPlaces?
  rw [start]
  dsimp only
  rw [behind, Option.bind_eq_bind, Option.bind_some]
  by_cases hosted : '@' ∈ rest
  · obtain ⟨user, host, rfl, last⟩ := exists_last hosted
    have front : slice? url (size scheme) (size user + size scheme) = some user := by
      refine Text.slice?_eq_some_iff.mpr ⟨scheme, '@' :: host, whole, rfl, ?_⟩
      rw [Text.Utf8.size_append, Nat.add_comm]
    rw [lastPlace?_of_last last]
    dsimp only
    rw [front, Option.bind_some]
    by_cases secret : ':' ∈ user
    · obtain ⟨name, password, rfl, first⟩ := List.eq_append_cons_of_mem secret
      rw [List.append_assoc, List.cons_append] at split whole
      have has : HasPassword url scheme name password host := ⟨split, first, last⟩
      have shown : slice? url 0 (size scheme + size name + 1) = some (scheme ++ (name ++ [':'])) := by
        refine Text.slice?_eq_some_iff.mpr ⟨[], password ++ '@' :: host, ?_, rfl, ?_⟩
        · rw [whole]
          simp
        · rw [List.nil_append, Text.Utf8.size_append, Text.Utf8.size_append, Nat.add_assoc]
          rfl
      have hidden : slice? url (size (name ++ ':' :: password) + size scheme) (size url) =
          some ('@' :: host) := by
        have ends : url = (scheme ++ (name ++ ':' :: password)) ++ '@' :: host := by
          rw [whole]
          simp
        rw [ends, Nat.add_comm, ← Text.Utf8.size_append]
        exact Text.slice?_tail _ _
      rw [firstPlace?_of_first first, has.maskedUrl, String.toList_ofList]
      dsimp only
      rw [shown, Option.bind_some, hidden, Option.bind_some]
      simp [shownUrl]
    · rw [firstPlace?_of_absent secret, maskedUrl_of_nameless split last secret]
      exact congrArg some String.toList_ofList.symm
  · rw [lastPlace?_of_absent hosted, maskedUrl_of_hostless split hosted]
    exact congrArg some String.toList_ofList.symm

/-! ### Passwords of users -/

theorem rtakeWhile_of_absent (absent : c ∉ s) : s.rtakeWhile (· ≠ c) = s := by
  refine List.rtakeWhile_eq_self_iff.mpr fun d mem => ?_
  exact decide_eq_true fun same => absent (same ▸ mem)

theorem rtakeWhile_of_last (last : c ∉ after) :
    (before ++ c :: after).rtakeWhile (· ≠ c) = after := by
  have others : ∀ d ∈ after.reverse, decide (d ≠ c) = true := fun d mem =>
    decide_eq_true fun same => last (same ▸ List.mem_reverse.mp mem)
  rw [List.rtakeWhile, List.reverse_append, List.reverse_cons, List.append_assoc,
    List.takeWhile_append_of_pos others]
  simp

theorem hasPassword_of_user (first : ¬ schemeMark <:+: scheme) (named : ':' ∉ user)
    (password rest : List Char) :
    ∃ secret, HasPassword (scheme ++ (schemeMark ++ (user ++ ':' :: (password ++ '@' :: rest))))
      (scheme ++ schemeMark) user secret (rest.rtakeWhile (· ≠ '@')) := by
  by_cases more : '@' ∈ rest
  · -- The at sign that ends the user's password is not the last, and the masking goes further.
    obtain ⟨before, host, rfl, last⟩ := exists_last more
    refine ⟨password ++ '@' :: before, ?_, named, ?_⟩
    · rw [cutScheme_of_first first, rtakeWhile_of_last last]
      simp
    · rwa [rtakeWhile_of_last last]
  · rw [rtakeWhile_of_absent more]
    exact ⟨password, cutScheme_of_first first, named, more⟩

def userUrl (scheme user password rest : String) : String :=
  scheme ++ "://" ++ user ++ ":" ++ password ++ "@" ++ rest

theorem maskedUrl_userUrl {scheme user : String} (first : ¬ schemeMark <:+: scheme.toList)
    (named : ':' ∉ user.toList) (password rest : String) :
    maskedUrl (userUrl scheme user password rest) =
      scheme ++ "://" ++ user ++ ":***@" ++
        String.ofList (rest.toList.rtakeWhile (· ≠ '@')) := by
  obtain ⟨secret, has⟩ := hasPassword_of_user first named password.toList rest.toList
  have text : userUrl scheme user password rest =
      String.ofList (scheme.toList ++ (schemeMark ++
        (user.toList ++ ':' :: (password.toList ++ '@' :: rest.toList)))) := by
    simp [← String.toList_inj, userUrl, schemeMark]
  rw [text, has.maskedUrl]
  simp [← String.toList_inj, shownUrl, schemeMark]

/-- Whatever the password of a user is, the masked URL is the same: it shows the mask, and what
stands behind the last at sign. No URL is sliced within a character, and what is masked once stays
as it is. -/
theorem user_password_is_hidden :
    (∀ scheme user rest : String, ¬ schemeMark <:+: scheme.toList → ':' ∉ user.toList →
      ∀ p₁ p₂ : String,
        maskedUrl (userUrl scheme user p₁ rest) = maskedUrl (userUrl scheme user p₂ rest) ∧
        maskedUrl (userUrl scheme user p₁ rest) = scheme ++ "://" ++ user ++ ":***@" ++
          String.ofList (rest.toList.rtakeWhile (· ≠ '@'))) ∧
      ∀ url : String, maskedByPlaces? url.toList = some (maskedUrl url).toList ∧
        maskedUrl (maskedUrl url) = maskedUrl url := by
  refine ⟨fun scheme user rest first named p₁ p₂ => ?_, fun url => ⟨?_, maskedUrl_idempotent url⟩⟩
  · have shown := maskedUrl_userUrl first named
    exact ⟨(shown p₁ rest).trans (shown p₂ rest).symm, shown p₁ rest⟩
  · rw [maskedByPlaces?_eq, String.ofList_toList]

theorem user_password_is_hidden_marked :
    (¬ schemeMark <:+: "postgres".toList ∧ ':' ∉ "a@b".toList) ∧
      maskedUrl (userUrl "postgres" "a@b" "s:@/://x" "é/d?e=x@y") =
        maskedUrl (userUrl "postgres" "a@b" "" "é/d?e=x@y") ∧
      maskedUrl (userUrl "postgres" "a@b" "s:@/://x" "é/d?e=x@y") = "postgres://a@b:***@y" := by
  have first : ¬ schemeMark <:+: "postgres".toList := by decide
  have named : ':' ∉ "a@b".toList := by decide
  obtain ⟨same, shown⟩ :=
    user_password_is_hidden.1 "postgres" "a@b" "é/d?e=x@y" first named "s:@/://x" ""
  refine ⟨⟨first, named⟩, same, shown.trans ?_⟩
  decide

end Courier.Settings
