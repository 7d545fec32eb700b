/-
  SerialNumbers.Proofs.Database.ConnectionText

  What the text by which a database is reached tells of the settings that it is
  made of.  User, password, host, number and database stand between signs that
  nothing escapes, so the text is that of one database only as long as the parts
  do not hold the signs (`Settings.connectionText_eq_iff`).  Behind a colon in
  the name of a user or an at sign in a password the text could as well be of the
  next part, so others have it too (`Settings.exists_other_of_sign`).
-/
import Mathlib
import SerialNumbers.Settings

namespace SerialNumbers

/-! ## Signs -/

section

variable {c : Char} {as bs xs ys : List Char}

/-- What precedes the first sign is a part without it. -/
theorem takeWhile_append_cons (h : c ∉ as) (rest : List Char) :
    (as ++ c :: rest).takeWhile (· != c) = as := by
  have hpass : ∀ d ∈ as, (d != c) = true := by
    intro d hd
    rw [bne_iff_ne]
    rintro rfl
    exact h hd
  rw [List.takeWhile_append_of_pos hpass, List.takeWhile_cons_of_neg (by simp), List.append_nil]

/-- Parts in front of the first sign can be told from what follows it. -/
theorem append_cons_inj_of_first (ha : c ∉ as) (hb : c ∉ bs) :
    as ++ c :: xs = bs ++ c :: ys ↔ as = bs ∧ xs = ys := by
  constructor
  · intro h
    have hfirst := congrArg (List.takeWhile (· != c)) h
    rw [takeWhile_append_cons ha, takeWhile_append_cons hb] at hfirst
    subst hfirst
    exact ⟨rfl, (List.cons.inj (List.append_cancel_left h)).2⟩
  · rintro ⟨rfl, rfl⟩
    rfl

/-- Parts behind the last sign can be told from what precedes it. -/
theorem append_cons_inj_of_last (hx : c ∉ xs) (hy : c ∉ ys) :
    as ++ c :: xs = bs ++ c :: ys ↔ as = bs ∧ xs = ys := by
  rw [← List.reverse_inj, List.reverse_append, List.reverse_append, List.reverse_cons,
    List.reverse_cons, List.append_assoc, List.append_assoc, List.singleton_append,
    List.singleton_append,
    append_cons_inj_of_first (mt List.mem_reverse.mp hx) (mt List.mem_reverse.mp hy),
    List.reverse_inj, List.reverse_inj, and_comm]

end

/-- A number is written with digits, and with a minus sign if it is negative. -/
theorem of_mem_toString_int {n : Int} {c : Char} (h : c ∈ (toString n).toList) :
    c = '-' ∨ c.isDigit = true := by
  have hdigits : ∀ m : Nat, c ∈ m.repr.toList → c.isDigit = true := by
    intro m hc
    rw [Nat.toList_repr] at hc
    exact Nat.isDigit_of_mem_toDigits (by decide) (by decide) hc
  rw [Int.toString_eq_repr, Int.repr_eq_if] at h
  split at h
  · exact .inr (hdigits _ h)
  · rw [String.toList_append] at h
    rcases List.mem_append.mp h with hminus | hmem
    · exact .inl (by simpa using hminus)
    · exact .inr (hdigits _ hmem)

namespace Settings

/-! ## The text -/

/-- The same user, password, host, number and database. -/
structure SameDatabase (s t : Settings) : Prop where
  user : s.user = t.user
  password : s.password = t.password
  host : s.host = t.host
  portNumber : s.portNumber = t.portNumber
  database : s.database = t.database

/-- No part holds the sign behind it: the user no colon, the password no at sign and the host no
    slash. -/
structure Separable (s : Settings) : Prop where
  user : ':' ∉ s.user.toList
  password : '@' ∉ s.password.toList
  host : '/' ∉ s.host.toList

theorem toList_connectionText (s : Settings) : s.connectionText.toList =
    "postgresql://".toList ++ (s.user.toList ++ ':' :: (s.password.toList ++ '@' ::
      ((s.host.toList ++ ':' :: (toString s.portNumber).toList) ++ '/' :: s.database.toList))) := by
  unfold connectionText
  simp only [String.toList_append, List.append_assoc]
  rfl

/-- Settings whose parts can be told apart have the same text just when they reach the same
    database as the same user. -/
theorem connectionText_eq_iff {s t : Settings} (hs : s.Separable) (ht : t.Separable) :
    s.connectionText = t.connectionText ↔ s.SameDatabase t := by
  have hcolon : ∀ n : Int, ':' ∉ (toString n).toList := fun n hmem => by
    rcases of_mem_toString_int hmem with h | h <;> exact absurd h (by decide)
  have hslash : ∀ s : Settings, s.Separable →
      '/' ∉ s.host.toList ++ ':' :: (toString s.portNumber).toList := by
    intro s hs hmem
    rcases List.mem_append.mp hmem with hmem | hmem
    · exact hs.host hmem
    · rcases List.mem_cons.mp hmem with h | hmem
      · exact absurd h (by decide)
      · rcases of_mem_toString_int hmem with h | h <;> exact absurd h (by decide)
  rw [← String.toList_inj, toList_connectionText, toList_connectionText,
    List.append_cancel_left_eq, append_cons_inj_of_first hs.user ht.user,
    append_cons_inj_of_first hs.password ht.password,
    append_cons_inj_of_first (hslash s hs) (hslash t ht),
    append_cons_inj_of_last (hcolon _) (hcolon _), String.toList_inj, String.toList_inj,
    String.toList_inj, String.toList_inj, String.toList_inj, Int.toString_eq_repr,
    Int.toString_eq_repr, Int.repr_inj]
  exact ⟨fun ⟨hu, hp, ⟨hh, hn⟩, hd⟩ => ⟨hu, hp, hh, hn, hd⟩,
    fun ⟨hu, hp, hh, hn, hd⟩ => ⟨hu, hp, ⟨hh, hn⟩, hd⟩⟩

/-! ## Signs inside the parts -/

/-- What stands behind a colon in the name of the user could as well be of the password. -/
theorem connectionText_colon (s : Settings) (name rest : String) :
    { s with user := name ++ ":" ++ rest }.connectionText =
      { s with user := name, password := rest ++ ":" ++ s.password }.connectionText := by
  rw [← String.toList_inj, toList_connectionText, toList_connectionText]
  simp only [String.toList_append, List.append_assoc]
  rfl

/-- What stands behind an at sign in the password could as well be of the host. -/
theorem connectionText_at (s : Settings) (word rest : String) :
    { s with password := word ++ "@" ++ rest }.connectionText =
      { s with password := word, host := rest ++ "@" ++ s.host }.connectionText := by
  rw [← String.toList_inj, toList_connectionText, toList_connectionText]
  simp only [String.toList_append, List.append_assoc]
  rfl

/-- A text with a sign in it is made of the texts before and behind the sign. -/
theorem exists_split {c : Char} {text : String} (h : c ∈ text.toList) :
    ∃ name rest : String, text = name ++ String.singleton c ++ rest := by
  obtain ⟨before, behind, hsplit⟩ := List.append_of_mem h
  refine ⟨String.ofList before, String.ofList behind, String.toList_inj.mp ?_⟩
  rw [hsplit, String.toList_append, String.toList_append, String.toList_ofList,
    String.toList_ofList, String.toList_singleton, List.append_assoc, List.singleton_append]

theorem ne_append_singleton_append (name rest : String) (c : Char) :
    name ≠ name ++ String.singleton c ++ rest := by
  intro h
  have hlength := congrArg (·.toList.length) h
  simp only [String.toList_append, String.toList_singleton, List.length_append,
    List.length_singleton] at hlength
  omega

/-- Settings with a colon in the user or an at sign in the password have the text of others. -/
theorem exists_other_of_sign {s : Settings}
    (h : ':' ∈ s.user.toList ∨ '@' ∈ s.password.toList) :
    ∃ t : Settings, t.connectionText = s.connectionText ∧ ¬ t.SameDatabase s := by
  rcases h with hcolon | hat
  · obtain ⟨name, rest, huser⟩ := exists_split hcolon
    refine ⟨{ s with user := name, password := rest ++ ":" ++ s.password }, ?_, fun hsame => ?_⟩
    · rw [← connectionText_colon, show ":" = String.singleton ':' from rfl, ← huser]
    · exact ne_append_singleton_append name rest ':' (hsame.user.trans huser)
  · obtain ⟨word, rest, hpassword⟩ := exists_split hat
    refine ⟨{ s with password := word, host := rest ++ "@" ++ s.host }, ?_, fun hsame => ?_⟩
    · rw [← connectionText_at, show "@" = String.singleton '@' from rfl, ← hpassword]
    · exact ne_append_singleton_append word rest '@' (hsame.password.trans hpassword)

end Settings

end SerialNumbers
