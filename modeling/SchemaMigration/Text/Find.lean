/-
  Finding texts in texts, and comparing them without regard to letter case.

  Letter case is that of ASCII letters; all other characters count as they are.

  Main statements: `occursIn_iff`, what it is to occur, and `occursIn_append_cons`, a
  part does not reach over a character it does not hold.
-/
namespace SchemaMigration.Text

/-- Whether a text occurs in another. -/
def occursIn (part : List Char) : List Char → Bool
  | [] => part.isEmpty
  | c :: cs => part.isPrefixOf (c :: cs) || occursIn part cs

/-- What follows a text at the start of another. -/
def after? (part cs : List Char) : Option (List Char) :=
  if part.isPrefixOf cs then some (cs.drop part.length) else none

/-- What follows words at the start of a text, in any letter case; the words are
given in upper case. -/
def afterWords? (words cs : List Char) : Option (List Char) :=
  if words.isPrefixOf (cs.map Char.toUpper) then some (cs.drop words.length) else none

/-- Whether a text starts with words, in any letter case. -/
def startsWithWords (words cs : List Char) : Bool := words.isPrefixOf (cs.map Char.toUpper)

/-- The text from the first occurrence of a part on. -/
def fromFirst? (part : List Char) : List Char → Option (List Char)
  | [] => if part.isEmpty then some [] else none
  | c :: cs => if part.isPrefixOf (c :: cs) then some (c :: cs) else fromFirst? part cs

/-- The text from the last occurrence of a part on. -/
def fromLast? (part : List Char) : List Char → Option (List Char)
  | [] => if part.isEmpty then some [] else none
  | c :: cs =>
    (fromLast? part cs).or (if part.isPrefixOf (c :: cs) then some (c :: cs) else none)

theorem occursIn_iff {part cs : List Char} : occursIn part cs = true ↔ part <:+: cs := by
  induction cs with
  | nil => simp [occursIn, List.infix_nil]
  | cons c cs ih =>
    rw [occursIn, Bool.or_eq_true, ih, List.isPrefixOf_iff_prefix, List.infix_cons_iff]

theorem isPrefixOf_append_cons {part cs rest : List Char} {d : Char} (h : d ∉ part) :
    part.isPrefixOf (cs ++ d :: rest) = part.isPrefixOf cs := by
  induction part generalizing cs with
  | nil => rfl
  | cons a part ih =>
    have ha : a ≠ d := fun had => h (had ▸ List.mem_cons_self)
    cases cs with
    | nil => simp [List.isPrefixOf, ha]
    | cons c cs => simp [List.isPrefixOf, ih fun hd => h (List.mem_cons_of_mem _ hd)]

theorem occursIn_append_cons {part cs rest : List Char} {d : Char} (h : d ∉ part) :
    occursIn part (cs ++ d :: rest) = (occursIn part cs || occursIn part rest) := by
  induction cs with
  | nil =>
    have hhead : part.isPrefixOf (d :: rest) = occursIn part [] := by
      rw [← List.nil_append (d :: rest), isPrefixOf_append_cons h]
      cases part <;> rfl
    show (part.isPrefixOf (d :: rest) || occursIn part rest) = _
    rw [hhead]
  | cons c cs ih =>
    rw [List.cons_append, occursIn, ← List.cons_append, isPrefixOf_append_cons h, ih, occursIn,
      Bool.or_assoc]

theorem occursIn_eq_false_of_not_mem {part cs : List Char} {d : Char} (hd : d ∈ part)
    (h : d ∉ cs) : occursIn part cs = false := by
  induction cs with
  | nil => simpa [occursIn] using List.ne_nil_of_mem hd
  | cons c cs ih =>
    have hprefix : part.isPrefixOf (c :: cs) = false :=
      Bool.eq_false_iff.2 fun hp => h ((List.isPrefixOf_iff_prefix.1 hp).subset hd)
    rw [occursIn, hprefix, ih fun hc => h (List.mem_cons_of_mem _ hc), Bool.or_false]

theorem fromLast?_eq_none_iff {part cs : List Char} :
    fromLast? part cs = none ↔ occursIn part cs = false := by
  induction cs with
  | nil => cases part <;> simp [fromLast?, occursIn]
  | cons c cs ih =>
    rw [fromLast?, occursIn, Bool.or_eq_false_iff, ← ih, Option.or_eq_none_iff]
    cases part.isPrefixOf (c :: cs) <;> simp

/-- What stands in front does not matter to the last occurrence. -/
theorem fromLast?_append {part cs rest : List Char} (h : fromLast? part cs = some rest)
    (front : List Char) : fromLast? part (front ++ cs) = some rest := by
  induction front with
  | nil => exact h
  | cons c front ih => rw [List.cons_append, fromLast?, ih, Option.some_or]

/-! ## Strings -/

/-- Whether two texts differ at most in letter case. -/
def sameName (a b : String) : Bool := a.toList.map Char.toLower == b.toList.map Char.toLower

/-- A text in lower case. -/
def lowered (s : String) : String := String.ofList (s.toList.map Char.toLower)

/-- Whether a text contains another. -/
def contains (s part : String) : Bool := occursIn part.toList s.toList

end SchemaMigration.Text
