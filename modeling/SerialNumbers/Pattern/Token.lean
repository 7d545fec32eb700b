/-
  SerialNumbers.Pattern.Token

  Variable tokens: a name of capital letters, digits and underscores between
  braces, with an optional parameter after a colon.  Scanning reads a text from
  left to right into tokens and the characters between them.
-/

namespace SerialNumbers.Pattern

/-- A variable with an optional parameter. -/
structure Token where
  name : String
  parameter : Option String
deriving Repr, DecidableEq, Inhabited

/-- A character that belongs to no token, or a token. -/
inductive Piece where
  | char (c : Char)
  | token (t : Token)
deriving Repr, DecidableEq

/-! ## Names -/

/-- A name starts with a capital letter or an underscore. -/
def isNameStart (c : Char) : Bool :=
  c.isUpper || c == '_'

def isNameChar (c : Char) : Bool :=
  c.isUpper || c.isDigit || c == '_'

/-- A character that may stand in a parameter. -/
def isPlainChar (c : Char) : Bool :=
  c != '\x7b' && c != '\x7d'

/-! ## Printed form -/

namespace Token

/-- What stands between the braces. -/
def body (t : Token) : String :=
  match t.parameter with
  | none => t.name
  | some parameter => t.name ++ ":" ++ parameter

/-- The token as it is written. -/
def text (t : Token) : List Char :=
  '\x7b' :: t.body.toList ++ ['\x7d']

end Token

def Piece.text : Piece → List Char
  | .char c => [c]
  | .token t => t.text

/-! ## Scanning -/

/-- The parameter of a token and what follows the token, after its name. -/
def parameterAt? (cs : List Char) : Option (Option String × List Char) :=
  match cs with
  | '\x7d' :: rest => some (none, rest)
  | ':' :: rest =>
    match rest.dropWhile isPlainChar with
    | '\x7d' :: tail => some (some (String.ofList (rest.takeWhile isPlainChar)), tail)
    | _ => none
  | _ => none

/-- The token that a text starts with, and what follows it. -/
def tokenAt? (cs : List Char) : Option (Token × List Char) :=
  match cs with
  | '\x7b' :: rest =>
    if (rest.head?.map isNameStart).getD false then
      (parameterAt? (rest.dropWhile isNameChar)).map fun (parameter, tail) =>
        (⟨String.ofList (rest.takeWhile isNameChar), parameter⟩, tail)
    else none
  | _ => none

theorem length_dropWhile_le (p : Char → Bool) (cs : List Char) :
    (cs.dropWhile p).length ≤ cs.length :=
  (List.dropWhile_suffix p).length_le

theorem length_of_parameterAt? {cs rest : List Char} {parameter : Option String}
    (h : parameterAt? cs = some (parameter, rest)) : rest.length < cs.length := by
  unfold parameterAt? at h
  split at h
  · simp only [Option.some.injEq, Prod.mk.injEq] at h
    simp [h.2]
  · rename_i tail
    split at h
    · rename_i end_ heq
      simp only [Option.some.injEq, Prod.mk.injEq] at h
      have := length_dropWhile_le isPlainChar tail
      rw [heq, h.2] at this
      simp only [List.length_cons] at this ⊢
      omega
    · simp at h
  · simp at h

theorem length_of_tokenAt? {cs rest : List Char} {t : Token}
    (h : tokenAt? cs = some (t, rest)) : rest.length < cs.length := by
  unfold tokenAt? at h
  split at h
  · rename_i tail
    split at h
    · simp only [Option.map_eq_some_iff, Prod.mk.injEq, Prod.exists] at h
      obtain ⟨parameter, rest', hp, _, rfl⟩ := h
      have h1 := length_of_parameterAt? hp
      have h2 := length_dropWhile_le isNameChar tail
      simp only [List.length_cons]
      omega
    · simp at h
  · simp at h

/-- Reads a text into tokens and the characters between them. -/
def pieces (cs : List Char) : List Piece :=
  match cs with
  | [] => []
  | c :: rest =>
    match _h : tokenAt? (c :: rest) with
    | some (t, tail) => .token t :: pieces tail
    | none => .char c :: pieces rest
termination_by cs.length
decreasing_by
  · have := length_of_tokenAt? _h; simpa using this
  · simp

theorem text_of_parameterAt? {cs rest : List Char} {parameter : Option String} (name : String)
    (h : parameterAt? cs = some (parameter, rest)) :
    (Token.body ⟨name, parameter⟩).toList ++ '\x7d' :: rest = name.toList ++ cs := by
  unfold parameterAt? at h
  split at h
  · simp only [Option.some.injEq, Prod.mk.injEq] at h
    simp [Token.body, ← h.1, ← h.2]
  · rename_i tail
    split at h
    · rename_i end_ heq
      simp only [Option.some.injEq, Prod.mk.injEq] at h
      have := List.takeWhile_append_dropWhile (p := isPlainChar) (l := tail)
      rw [heq] at this
      simp [Token.body, ← h.1, ← h.2, this]
    · simp at h
  · simp at h

/-- A token that is read is what was written. -/
theorem text_of_tokenAt? {cs rest : List Char} {t : Token} (h : tokenAt? cs = some (t, rest)) :
    t.text ++ rest = cs := by
  unfold tokenAt? at h
  split at h
  · rename_i tail
    split at h
    · simp only [Option.map_eq_some_iff, Prod.mk.injEq, Prod.exists] at h
      obtain ⟨parameter, rest', hp, rfl, rfl⟩ := h
      have h1 := text_of_parameterAt? (String.ofList (tail.takeWhile isNameChar)) hp
      have h2 := List.takeWhile_append_dropWhile (p := isNameChar) (l := tail)
      simp only [String.toList_ofList, h2] at h1
      simp [Token.text, h1]
    · simp at h
  · simp at h

/-- Scanning loses nothing. -/
theorem flatMap_text_pieces (cs : List Char) : (pieces cs).flatMap Piece.text = cs := by
  fun_induction pieces cs with
  | case1 => rfl
  | case2 c rest t tail h ih => simp [Piece.text, ih, text_of_tokenAt? h]
  | case3 c rest h ih => simp [Piece.text, ih]

/-- The tokens of a text in order. -/
def tokens (cs : List Char) : List Token :=
  (pieces cs).filterMap fun
    | .token t => some t
    | .char _ => none

/-- The text is one token. -/
def token? (cs : List Char) : Option Token :=
  match tokenAt? cs with
  | some (t, []) => some t
  | _ => none

/-- The bodies of the innermost pairs of braces, in order. -/
def braceBodies (cs : List Char) : List (List Char) :=
  match cs with
  | [] => []
  | c :: rest =>
    if c == '\x7b' then
      match _h : rest.dropWhile isPlainChar with
      | '\x7d' :: tail => rest.takeWhile isPlainChar :: braceBodies tail
      | _ => braceBodies rest
    else braceBodies rest
termination_by cs.length
decreasing_by
  · have := length_dropWhile_le isPlainChar rest
    rw [_h] at this
    simp only [List.length_cons] at this ⊢
    omega
  · simp
  · simp

/-- No prefix closes more braces than it opens, and all are closed; `depth` braces are
    open at the start. -/
def balancedFrom (depth : Nat) : List Char → Bool
  | [] => depth == 0
  | c :: rest =>
    if c == '\x7b' then balancedFrom (depth + 1) rest
    else if c == '\x7d' then
      match depth with
      | 0 => false
      | depth + 1 => balancedFrom depth rest
    else balancedFrom depth rest

def isBalanced (cs : List Char) : Bool :=
  balancedFrom 0 cs

/-- Splits a token's body at its first colon. -/
def splitBody (body : List Char) : List Char × Option (List Char) :=
  match body.dropWhile (· != ':') with
  | [] => (body, none)
  | _ :: parameter => (body.takeWhile (· != ':'), some parameter)

end SerialNumbers.Pattern
