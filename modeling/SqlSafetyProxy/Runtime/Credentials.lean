import SqlSafetyProxy.Runtime.Clauses

/-!
# Credentials of URIs

What credentials are read from, and when the scan finds none but replaced ones.
-/

namespace SqlSafetyProxy.Runtime

open SqlSafetyProxy.Wire SqlSafetyProxy.Collections

/-! ## URIs -/

/-- A scheme, a user and a password in one URI. -/
structure Uri (scheme user password : List Char) : Prop where
  scheme : ∀ char ∈ scheme, isSchemePart char = true
  someUser : user ≠ []
  user : ∀ char ∈ user, isUserPart char = true
  somePassword : password ≠ []
  password : ∀ char ∈ password, isPasswordPart char = true

/-- What precedes the password. -/
def uriFront (scheme user : List Char) : List Char :=
  scheme ++ ':' :: '/' :: '/' :: (user ++ [':'])

theorem credentials_iff {text front password : List Char} :
    credentials text = some (front, password) ↔ ∃ scheme user rest, Uri scheme user password ∧
      front = uriFront scheme user ∧ text = front ++ (password ++ '@' :: rest) := by
  constructor
  · intro read
    obtain ⟨scheme, user, rest, isFront, split, schemeParts, someUser, userParts, somePassword,
      passwordParts⟩ := credentials_eq read
    exact ⟨scheme, user, rest, ⟨schemeParts, someUser, userParts, somePassword, passwordParts⟩,
      isFront, split⟩
  · rintro ⟨scheme, user, rest, uri, rfl, rfl⟩
    have colon : isSchemePart ':' = false ∧ isUserPart ':' = false := by decide
    have atSign : isPasswordPart '@' = false := by decide
    have whole : uriFront scheme user ++ (password ++ '@' :: rest) =
        scheme ++ ':' :: '/' :: '/' :: (user ++ ':' :: (password ++ '@' :: rest)) := by
      simp [uriFront]
    rw [whole]
    unfold credentials
    rw [List.dropWhile_append_of_pos uri.scheme, List.dropWhile_cons_of_neg (by simp [colon.1])]
    split
    · next behindScheme same =>
      cases same
      rw [List.dropWhile_append_of_pos uri.user, List.dropWhile_cons_of_neg (by simp [colon.2])]
      split
      · next behindUser same =>
        cases same
        rw [List.dropWhile_append_of_pos uri.password, List.dropWhile_cons_of_neg (by simp [atSign]),
          List.takeWhile_append_of_pos uri.scheme, List.takeWhile_cons_of_neg (by simp [colon.1]),
          List.takeWhile_append_of_pos uri.user, List.takeWhile_cons_of_neg (by simp [colon.2]),
          List.takeWhile_append_of_pos uri.password, List.takeWhile_cons_of_neg (by simp [atSign])]
        simp [uriFront, uri.someUser, uri.somePassword]
      · next other => exact absurd rfl (other _)
    · next other => exact absurd rfl (other _)

section Uri

variable {isAlnum : Char → Bool} {before : Option Char} {text replacement found : List Char}

theorem isSchemePart_blank {char : Char} (blank : isSpace char = true) :
    isSchemePart char = false := by
  obtain ⟨same, notLower, notDigit⟩ := foldCase_blank blank
  have other : ∀ sign, isSpace sign = false → (char == sign) = false := by
    intro sign solid
    refine beq_eq_false_iff_ne.mpr ?_
    rintro rfl
    rw [blank] at solid
    cases solid
  rw [isSchemePart, isLetter, same, notLower, notDigit, other '+' (by decide),
    other '.' (by decide), other '-' (by decide)]
  rfl

theorem Uri.solid {scheme user password : List Char} (uri : Uri scheme user password) :
    ∀ char ∈ uriFront scheme user ++ password, isSpace char = false := by
  intro char inside
  cases blank : isSpace char with
  | false => rfl
  | true =>
      have notScheme := isSchemePart_blank blank
      simp only [uriFront, List.mem_append, List.mem_cons, List.not_mem_nil, or_false] at inside
      rcases inside with (inside | rfl | rfl | rfl | inside | rfl) | inside
      · rw [uri.scheme char inside] at notScheme
        cases notScheme
      · cases blank
      · cases blank
      · cases blank
      · have part := uri.user char inside
        rw [isUserPart, blank] at part
        cases part
      · cases blank
      · have part := uri.password char inside
        rw [isPasswordPart, blank] at part
        cases part

/-! ## Settled credentials -/

/-- The text of credentials has one password. -/
theorem Uri.unique {scheme user password other front : List Char} {rest : List Char}
    (uri : Uri scheme user password) (read : credentials text = some (front, other))
    (same : text = uriFront scheme user ++ (password ++ '@' :: rest)) : other = password := by
  have there := credentials_iff.mpr ⟨scheme, user, rest, uri, rfl, same⟩
  rw [read] at there
  exact (Prod.mk.inj (Option.some.inj there)).2

end Uri

end SqlSafetyProxy.Runtime
