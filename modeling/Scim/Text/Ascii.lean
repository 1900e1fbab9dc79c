/-!
# Letters of ASCII

Keywords, booleans and the names of operations are compared without regard to the case of the
26 ASCII letters; every other character stands for itself.
-/

namespace Scim.Text

/-- The text with its ASCII capitals made small. -/
def lowerAscii (s : String) : String :=
  String.ofList (s.toList.map Char.toLower)

/-- The text with its ASCII small letters made capitals. -/
def upperAscii (s : String) : String :=
  String.ofList (s.toList.map Char.toUpper)

/-- Equality up to the case of ASCII letters. -/
def eqIgnoreAsciiCase (a b : String) : Bool :=
  a.toList.map Char.toLower == b.toList.map Char.toLower

/-- What follows `word` at the start of the text, up to the case of ASCII letters. -/
def dropWordIgnoreCase? : List Char → List Char → Option (List Char)
  | [], cs => some cs
  | _ :: _, [] => none
  | w :: ws, c :: cs => if w.toLower = c.toLower then dropWordIgnoreCase? ws cs else none

/-- What follows `word` at the start of the text. -/
def dropWord? : List Char → List Char → Option (List Char)
  | [], cs => some cs
  | _ :: _, [] => none
  | w :: ws, c :: cs => if w = c then dropWord? ws cs else none

theorem length_of_dropWordIgnoreCase? {w cs rest : List Char}
    (h : dropWordIgnoreCase? w cs = some rest) : rest.length + w.length = cs.length := by
  induction w generalizing cs with
  | nil => simp_all [dropWordIgnoreCase?]
  | cons x w ih =>
    cases cs with
    | nil => simp [dropWordIgnoreCase?] at h
    | cons c cs =>
      simp only [dropWordIgnoreCase?] at h
      split at h
      · have := ih h
        simp only [List.length_cons]
        omega
      · simp at h

theorem dropWord?_eq_some_iff {w cs rest : List Char} :
    dropWord? w cs = some rest ↔ cs = w ++ rest := by
  induction w generalizing cs with
  | nil => simp [dropWord?, eq_comm]
  | cons x w ih =>
    cases cs with
    | nil => simp [dropWord?]
    | cons c cs =>
      by_cases hx : x = c
      · simp [dropWord?, hx, ih]
      · simp [dropWord?, hx, Ne.symm hx]

end Scim.Text
