/-
  SerialNumbers.Text.Markup

  Texts with style tags in square brackets.  A tag starts with a small letter, a
  hash, a slash or an at sign; one with a slash closes the last open tag of its
  name, or any tag if it has no name.  A backslash before a tag takes its
  meaning away.
-/
import SerialNumbers.Text.Blank
import SerialNumbers.Text.Case

namespace SerialNumbers.Text.Markup

/-! ## Tags -/

/-- A character with which a tag can start. -/
def startsTag (c : Char) : Bool :=
  ('a' ≤ c && c ≤ 'z') || c == '#' || c == '/' || c == '@'

/-- What stands between the brackets of a tag that starts here, and what follows it. -/
def tagAt? (cs : List Char) : Option (List Char × List Char) :=
  match cs with
  | '[' :: c :: rest =>
    let more := rest.takeWhile fun d => d != ']' && d != '['
    match rest.drop more.length with
    | ']' :: tail => if startsTag c then some (c :: more, tail) else none
    | _ => none
  | _ => none

theorem length_of_tagAt? {cs tag tail : List Char} (h : tagAt? cs = some (tag, tail)) :
    tail.length < cs.length := by
  unfold tagAt? at h
  split at h
  · rename_i c rest
    simp only at h
    split at h
    · rename_i body hbody
      split at h
      · simp only [Option.some.injEq, Prod.mk.injEq] at h
        have := congrArg List.length hbody
        simp only [List.length_drop, List.length_cons] at this ⊢
        rw [← h.2]
        omega
      · simp at h
    · simp at h
  · simp at h

/-- The name of a tag: what stands before an equality sign. -/
def tagName (tag : List Char) : String :=
  String.ofList (tag.takeWhile (· != '='))

/-- Names of styles are compared without blanks around them and in small letters. -/
def styleName (cs : List Char) : String :=
  lower (String.ofList (trim cs))

/-- The styles that are open after a tag, the innermost first; none if the tag closes what
    is not open. -/
def follow? (opened : List String) (tag : List Char) : Option (List String) :=
  match (tagName tag).toList with
  | '/' :: name =>
    if (trim name).isEmpty then
      match opened with
      | [] => none
      | _ :: rest => some rest
    else if opened.contains (styleName name) then some (opened.erase (styleName name))
    else none
  | name => some (styleName name :: opened)

/-! ## Plain text -/

/-- The text without its tags, with the styles that are open; none if a tag closes what is
    not open.  Of two backslashes before a tag one is left. -/
def plainFrom (opened : List String) (cs : List Char) : Option (List Char) :=
  match cs with
  | [] => some []
  | c :: rest =>
    let slashes := (c :: rest).takeWhile (· == '\\')
    match _h : tagAt? ((c :: rest).drop slashes.length) with
    | some (tag, tail) =>
      let kept := List.replicate (slashes.length / 2) '\\'
      if slashes.length % 2 == 1 then
        (plainFrom opened tail).map fun more => kept ++ '[' :: tag ++ ']' :: more
      else do
        let opened ← follow? opened tag
        (plainFrom opened tail).map (kept ++ ·)
    | none =>
      if c == '\\' && rest.head? == some '[' then
        (plainFrom opened rest.tail).map ('[' :: ·)
      else (plainFrom opened rest).map (c :: ·)
termination_by cs.length
decreasing_by
  · have := length_of_tagAt? _h
    simp only [List.length_drop] at this
    omega
  · have := length_of_tagAt? _h
    simp only [List.length_drop] at this
    omega
  · simp only [List.length_tail, List.length_cons]
    omega
  · simp

/-- Characters that a terminal would act on. -/
def isControl (c : Char) : Bool :=
  [7, 8, 11, 12, 13].contains c.toNat

/-- The text without its tags, if every tag that closes something has something to
    close. -/
def plain? (s : String) : Option String :=
  (plainFrom [] s.toList).map fun cs => String.ofList (cs.filter fun c => !isControl c)

end SerialNumbers.Text.Markup
