import Courier.Proofs.Settings.Masking

/-!
# Passwords in the query

The password of a connection may also stand among the parameters of its URL. The masking knows
nothing of parameters: it hides such a password exactly where a colon stands before it and an at
sign behind it, and shows it otherwise: `query_password_is_hidden_iff`.
-/

namespace Courier.Settings

section Parts

/-- A URL with a secret somewhere behind the mark of its scheme. -/
def secretUrl (scheme front tail secret : List Char) : List Char :=
  scheme ++ (schemeMark ++ (front ++ (secret ++ tail)))

variable {scheme front tail name password host user : List Char} {secret : List Char}
  (first : ¬ schemeMark <:+: scheme)
include first

theorem maskedUrl_of_password (name password host : List Char)
    (split : front ++ (secret ++ tail) = name ++ ':' :: (password ++ '@' :: host))
    (named : ':' ∉ name) (last : '@' ∉ host) :
    maskedUrl (String.ofList (secretUrl scheme front tail secret)) =
      String.ofList (shownUrl (scheme ++ schemeMark) name host) := by
  have cut : cutScheme (secretUrl scheme front tail secret) =
      (scheme ++ schemeMark, name ++ ':' :: (password ++ '@' :: host)) := by
    rw [secretUrl, split]
    exact cutScheme_of_first first
  have has : HasPassword _ _ name password host := ⟨cut, named, last⟩
  exact has.maskedUrl

theorem maskedUrl_of_no_password (user : List Char)
    (split : front ++ (secret ++ tail) = user ++ '@' :: host)
    (last : '@' ∉ host) (absent : ':' ∉ user) :
    maskedUrl (String.ofList (secretUrl scheme front tail secret)) =
      String.ofList (secretUrl scheme front tail secret) := by
  have cut : cutScheme (secretUrl scheme front tail secret) =
      (scheme ++ schemeMark, user ++ '@' :: host) := by
    rw [secretUrl, split]
    exact cutScheme_of_first first
  exact maskedUrl_of_nameless cut last absent

/-- What stands between a colon and an at sign is hidden, whatever it is. -/
theorem maskedUrl_of_covered (colon : ':' ∈ front) (at_ : '@' ∈ tail) :
    ∃ shown, ∀ secret, maskedUrl (String.ofList (secretUrl scheme front tail secret)) = shown := by
  obtain ⟨name, before, rfl, named⟩ := List.eq_append_cons_of_mem colon
  obtain ⟨after, host, rfl, last⟩ := exists_last at_
  refine ⟨String.ofList (shownUrl (scheme ++ schemeMark) name host), fun secret => ?_⟩
  have split : (name ++ ':' :: before) ++ (secret ++ (after ++ '@' :: host)) =
      name ++ ':' :: ((before ++ (secret ++ after)) ++ '@' :: host) := by
    simp
  exact maskedUrl_of_password first name _ host split named last

/-- The secret is shown, unless it holds a mark that has a meaning in the URL. -/
def IsShown (scheme front tail : List Char) : Prop :=
  ∃ before after, ∀ secret, ':' ∉ secret → '@' ∉ secret →
    maskedUrl (String.ofList (secretUrl scheme front tail secret)) =
      String.ofList (before ++ (secret ++ after))

omit first in
theorem secretUrl_eq :
    secretUrl scheme front tail secret = (scheme ++ (schemeMark ++ front)) ++ (secret ++ tail) := by
  simp [secretUrl]

theorem isShown_of_no_at (absent : '@' ∉ tail) : IsShown scheme front tail := by
  by_cases before : '@' ∈ front
  · obtain ⟨user, rest, rfl, last⟩ := exists_last before
    have hostly {secret : List Char} (atless : '@' ∉ secret) : '@' ∉ rest ++ (secret ++ tail) := by
      simp [last, atless, absent]
    by_cases colon : ':' ∈ user
    · -- The user information has a password of its own, and the secret stands behind it.
      obtain ⟨name, password, rfl, named⟩ := List.eq_append_cons_of_mem colon
      refine ⟨shownUrl (scheme ++ schemeMark) name rest, tail, fun secret _ atless => ?_⟩
      have split : (name ++ ':' :: password ++ '@' :: rest) ++ (secret ++ tail) =
          name ++ ':' :: (password ++ '@' :: (rest ++ (secret ++ tail))) := by
        simp
      rw [maskedUrl_of_password first name password _ split named (hostly atless)]
      simp [shownUrl]
    · refine ⟨scheme ++ (schemeMark ++ (user ++ '@' :: rest)), tail, fun secret _ atless => ?_⟩
      have split : (user ++ '@' :: rest) ++ (secret ++ tail) =
          user ++ '@' :: (rest ++ (secret ++ tail)) := by
        simp
      rw [maskedUrl_of_no_password first user split (hostly atless) colon, secretUrl_eq]
  · refine ⟨scheme ++ (schemeMark ++ front), tail, fun secret _ atless => ?_⟩
    have hostless : '@' ∉ front ++ (secret ++ tail) := by simp [before, atless, absent]
    rw [secretUrl, maskedUrl_of_hostless (cutScheme_of_first first) hostless, ← secretUrl,
      secretUrl_eq]

theorem isShown_of_no_colon (absent : ':' ∉ front) (behind : '@' ∈ tail) :
    IsShown scheme front tail := by
  obtain ⟨more, host, rfl, last⟩ := exists_last behind
  by_cases colon : ':' ∈ more
  · -- The first colon stands behind the secret, which is taken for a part of the user's name.
    obtain ⟨name, password, rfl, named⟩ := List.eq_append_cons_of_mem colon
    refine ⟨scheme ++ (schemeMark ++ front), shownUrl name [] host, fun secret colonless _ => ?_⟩
    have nameless : ':' ∉ front ++ (secret ++ name) := by simp [absent, colonless, named]
    have split : front ++ (secret ++ ((name ++ ':' :: password) ++ '@' :: host)) =
        (front ++ (secret ++ name)) ++ ':' :: (password ++ '@' :: host) := by
      simp
    rw [maskedUrl_of_password first _ password host split nameless last]
    simp [shownUrl]
  · refine ⟨scheme ++ (schemeMark ++ front), more ++ '@' :: host, fun secret colonless _ => ?_⟩
    have nameless : ':' ∉ front ++ (secret ++ more) := by simp [absent, colonless, colon]
    have split : front ++ (secret ++ (more ++ '@' :: host)) =
        (front ++ (secret ++ more)) ++ '@' :: host := by
      simp
    rw [maskedUrl_of_no_password first _ split last nameless, secretUrl_eq]

theorem isShown_of_uncovered (uncovered : ¬ (':' ∈ front ∧ '@' ∈ tail)) :
    IsShown scheme front tail := by
  by_cases behind : '@' ∈ tail
  · exact isShown_of_no_colon first (fun colon => uncovered ⟨colon, behind⟩) behind
  · exact isShown_of_no_at first behind

end Parts

/-! ### Parameters -/

def queryUrl (start : String) (before : List String) (password : String) (after : List String) :
    String :=
  start ++ "?" ++ "&".intercalate (before ++ ("password=" ++ password) :: after)

def IsValue (p : String) : Prop := '&' ∉ p.toList ∧ '#' ∉ p.toList

/-- A colon stands before the password, behind the mark of the scheme, and an at sign behind it. -/
def IsCovered (authority : String) (before after : List String) : Prop :=
  (':' ∈ authority.toList ∨ ∃ q ∈ before, ':' ∈ q.toList) ∧ ∃ q ∈ after, '@' ∈ q.toList

theorem intercalate_append_cons {α : Type} (sep : List α) (before after : List (List α))
    (part : List α) :
    sep.intercalate (before ++ part :: after) =
      before.flatMap (· ++ sep) ++ (part ++ after.flatMap (sep ++ ·)) := by
  induction before with
  | nil =>
    rw [List.nil_append, List.flatMap_nil, List.nil_append]
    induction after generalizing part with
    | nil => simp
    | cons next rest ih =>
      rw [List.intercalate_cons_cons, ih, List.flatMap_cons, List.append_assoc, List.append_assoc]
  | cons q rest ih =>
    rw [List.cons_append, List.intercalate_cons_of_ne_nil (by simp), ih, List.flatMap_cons]
    simp only [List.append_assoc]

section Query

variable {scheme authority : String} {before after : List String}

def queryFront (authority : String) (before : List String) : List Char :=
  authority.toList ++ '?' :: (before.flatMap (·.toList ++ ['&']) ++ "password=".toList)

def queryTail (after : List String) : List Char := after.flatMap ('&' :: ·.toList)

theorem toList_queryUrl (password : String) :
    (queryUrl (scheme ++ "://" ++ authority) before password after).toList =
      secretUrl scheme.toList (queryFront authority before) (queryTail after)
        password.toList := by
  simp [queryUrl, secretUrl, queryFront, queryTail, schemeMark, String.toList_intercalate,
    intercalate_append_cons, List.flatMap_map]

theorem isCovered_iff : IsCovered authority before after ↔
    ':' ∈ queryFront authority before ∧ '@' ∈ queryTail after := by
  simp [IsCovered, queryFront, queryTail]

theorem maskedUrl_queryUrl (password : String) :
    maskedUrl (queryUrl (scheme ++ "://" ++ authority) before password after) =
      maskedUrl (String.ofList (secretUrl scheme.toList (queryFront authority before)
        (queryTail after) password.toList)) := by
  rw [← toList_queryUrl, String.ofList_toList]

theorem masked_alike_of_covered (first : ¬ schemeMark <:+: scheme.toList)
    (covered : IsCovered authority before after) (p q : String) :
    maskedUrl (queryUrl (scheme ++ "://" ++ authority) before p after) =
      maskedUrl (queryUrl (scheme ++ "://" ++ authority) before q after) := by
  obtain ⟨colon, at_⟩ := isCovered_iff.mp covered
  obtain ⟨shown, same⟩ := maskedUrl_of_covered first colon at_
  rw [maskedUrl_queryUrl, maskedUrl_queryUrl, same, same]

theorem shown_of_uncovered (first : ¬ schemeMark <:+: scheme.toList)
    (uncovered : ¬ IsCovered authority before after) :
    ∃ shown rest : String, ∀ p : String, ':' ∉ p.toList → '@' ∉ p.toList →
      maskedUrl (queryUrl (scheme ++ "://" ++ authority) before p after) = shown ++ p ++ rest := by
  obtain ⟨front, back, shown⟩ := isShown_of_uncovered first (mt isCovered_iff.mpr uncovered)
  refine ⟨String.ofList front, String.ofList back, fun p colonless atless => ?_⟩
  rw [maskedUrl_queryUrl, shown _ colonless atless, String.ofList_append, String.ofList_append,
    String.ofList_toList, String.append_assoc]

end Query

theorem exists_scheme {start : String} (marked : schemeMark <:+: start.toList) :
    ∃ scheme authority : String, start = scheme ++ "://" ++ authority ∧
      ¬ schemeMark <:+: scheme.toList := by
  obtain ⟨scheme, rest, first, split⟩ | unmarked := exists_cutScheme start.toList
  · refine ⟨String.ofList scheme, String.ofList rest, ?_, by rwa [String.toList_ofList]⟩
    rw [← String.toList_inj, split]
    simp [schemeMark]
  · exact absurd marked unmarked

/-- The masked URL does not depend on a password among the parameters exactly if a colon stands
before it, behind the mark of the scheme, and an at sign behind it. Otherwise every password that
has neither of them is shown as it is. -/
theorem query_password_is_hidden_iff {start : String} (marked : schemeMark <:+: start.toList)
    (before after : List String) :
    ∃ scheme authority : String, start = scheme ++ "://" ++ authority ∧
      ¬ schemeMark <:+: scheme.toList ∧
      ((∀ p q : String, IsValue p → IsValue q →
          maskedUrl (queryUrl start before p after) = maskedUrl (queryUrl start before q after)) ↔
        IsCovered authority before after) ∧
      (¬ IsCovered authority before after → ∃ shown rest : String, ∀ p : String,
        ':' ∉ p.toList → '@' ∉ p.toList →
          maskedUrl (queryUrl start before p after) = shown ++ p ++ rest) := by
  obtain ⟨scheme, authority, rfl, first⟩ := exists_scheme marked
  refine ⟨scheme, authority, rfl, first, ⟨fun alike => ?_, fun covered p q _ _ => ?_⟩,
    shown_of_uncovered first⟩
  · by_contra uncovered
    obtain ⟨shown, rest, same⟩ := shown_of_uncovered first uncovered
    have equal := alike "a" "b" ⟨by decide, by decide⟩ ⟨by decide, by decide⟩
    rw [same "a" (by decide) (by decide), same "b" (by decide) (by decide)] at equal
    simp [← String.toList_inj] at equal
  · exact masked_alike_of_covered first covered p q

theorem query_password_is_hidden_iff_localhost :
    schemeMark <:+: "postgresql://localhost/httpq".toList ∧
      ∃ shown rest : String, ∀ p : String, ':' ∉ p.toList → '@' ∉ p.toList →
        maskedUrl (queryUrl "postgresql://localhost/httpq" ["sslmode=prefer"] p []) =
          shown ++ p ++ rest := by
  have marked : schemeMark <:+: "postgresql://localhost/httpq".toList := by decide
  obtain ⟨_, _, -, -, -, shown⟩ := query_password_is_hidden_iff marked ["sslmode=prefer"] []
  exact ⟨marked, shown fun covered => nomatch covered.2⟩

theorem query_password_is_shown :
    (schemeMark <:+: "postgresql://localhost/httpq".toList ∧
        '?' ∉ "postgresql://localhost/httpq".toList) ∧
      (IsValue "hunter2" ∧ IsValue "swordfish") ∧
      maskedUrl (queryUrl "postgresql://localhost/httpq" [] "hunter2" []) =
        "postgresql://localhost/httpq?password=hunter2" ∧
      maskedUrl (queryUrl "postgresql://localhost/httpq" [] "hunter2" []) ≠
        maskedUrl (queryUrl "postgresql://localhost/httpq" [] "swordfish" []) := by
  unfold IsValue
  decide +kernel

end Courier.Settings
